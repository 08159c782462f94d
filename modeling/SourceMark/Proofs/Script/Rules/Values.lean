import SourceMark.Proofs.Script.Rules.Elements
import SourceMark.Script.Expressions

/-!
# Values and expressions stay within the text
-/

namespace SourceMark

namespace Script

open Reading

set_option synthInstance.maxSize 100000

variable {origin : Cursor}

/-! ## What the rules give -/

instance : HasPlaces FunctionParts where
  AllFrom := fun origin parts => Within origin parts.quantified ∧
    Within origin parts.parameters ∧ Within origin parts.result ∧
    Within origin parts.body

instance (parts : FunctionParts) [within : Within origin parts] :
    Within origin parts.quantified :=
  within.allFrom.1

instance (parts : FunctionParts) [within : Within origin parts] :
    Within origin parts.parameters :=
  within.allFrom.2.1

instance (parts : FunctionParts) [within : Within origin parts] :
    Within origin parts.result :=
  within.allFrom.2.2.1

instance (parts : FunctionParts) [within : Within origin parts] :
    Within origin parts.body :=
  within.allFrom.2.2.2

instance (quantified : List Node) (parameters : List Parameter)
    (result : List Node) (body : Option (List Node))
    [first : Within origin quantified] [second : Within origin parameters]
    [third : Within origin result] [fourth : Within origin body] :
    Within origin ({ quantified, parameters, result, body } : FunctionParts) :=
  ⟨first, second, third, fourth⟩

instance (parts : FunctionParts) (decorations : List Node)
    [Within origin parts] [Within origin decorations] :
    Within origin (parts.inOrder decorations) := by
  unfold FunctionParts.inOrder
  infer_instance

instance : HasPlaces ArrowBody where
  AllFrom := fun origin body => Within origin body.parts

instance (body : ArrowBody) [within : Within origin body] :
    Within origin body.parts :=
  within.allFrom

instance (parts : List Node) (isBlock : Bool) [within : Within origin parts] :
    Within origin ({ parts, isBlock } : ArrowBody) :=
  ⟨within⟩

instance : HasPlaces Operation where
  AllFrom := fun origin operation => Within origin operation.term

instance (operation : Operation) [within : Within origin operation] :
    Within origin operation.term :=
  within.allFrom

instance (term : Term) (last : Form) (isJoined : Bool)
    [within : Within origin term] :
    Within origin ({ term, last, isJoined } : Operation) :=
  ⟨within⟩

instance : HasPlaces ListItem where
  AllFrom := fun origin item => Within origin item.entry

instance (item : ListItem) [within : Within origin item] :
    Within origin item.entry :=
  within.allFrom

instance (entry : Entry) (isParameter : Bool) [within : Within origin entry] :
    Within origin ({ entry, isParameter } : ListItem) :=
  ⟨within⟩

instance (isSpread : Bool) (term : Term) [Within origin term] :
    Within origin (ListItem.ofTerm isSpread term) := by
  unfold ListItem.ofTerm
  infer_instance

instance (isSpread : Bool) (parts : List Node) [Within origin parts] :
    Within origin (ListItem.ofParameter isSpread parts) := by
  unfold ListItem.ofParameter
  infer_instance

instance (items : List ListItem) [Within origin items] :
    Within origin (ListItem.parameterParts items) := by
  unfold ListItem.parameterParts
  infer_instance

instance : HasPlaces Base where
  AllFrom := fun origin base => Within origin base.value ∧ Within origin base.types

instance (base : Base) [within : Within origin base] : Within origin base.value :=
  within.allFrom.1

instance (base : Base) [within : Within origin base] : Within origin base.types :=
  within.allFrom.2

instance (value types : List Node) [first : Within origin value]
    [second : Within origin types] : Within origin ({ value, types } : Base) :=
  ⟨first, second⟩

instance (kind : EntryKind) (term : Term) [Within origin term] :
    Within origin (Entry.ofTerm kind term) := by
  unfold Entry.ofTerm
  infer_instance

instance : Within origin Entry.hole := by
  unfold Entry.hole
  infer_instance

instance (parts : List Node) [Within origin parts] :
    Within origin (Entry.fixed parts) := by
  unfold Entry.fixed
  infer_instance

instance (parts : List Node) [Within origin parts] :
    Within origin (Entry.indivisible parts) := by
  unfold Entry.indivisible
  infer_instance

instance (isOptional : Bool) (form : Form) (node : Node) [Within origin node] :
    Within origin (accessed isOptional form node) := by
  unfold accessed
  infer_instance

instance (name : String) (lexeme : Lexeme) :
    Within origin (nameTerm name lexeme) := by
  unfold nameTerm
  infer_instance

instance (word : String) : Within origin (Key.ofWord word) := by
  unfold Key.ofWord
  infer_instance

section Rules

variable (grammar : Grammar) [Grammar.IsWithin grammar]

/-! ## Functions -/

instance : Within origin (block grammar) := by
  unfold block
  infer_instance

instance {α : Type} (manner : Manner) (reading : Reading α) [HasPlaces α]
    [Within origin reading] : Within origin (insideFunction manner reading) := by
  unfold insideFunction
  infer_instance

instance {α : Type} (reading : Reading α) [HasPlaces α] [Within origin reading] :
    Within origin (insideParameters reading) := by
  unfold insideParameters
  infer_instance

instance {α : Type} (reading : Reading α) [HasPlaces α] [Within origin reading] :
    Within origin (insideBody reading) := by
  unfold insideBody
  infer_instance

instance {α : Type} (allowed : Bool) (reading : Reading α) [HasPlaces α]
    [Within origin reading] : Within origin (withSuper allowed reading) := by
  unfold withSuper
  infer_instance

instance : Within origin (functionBody? grammar) := by
  unfold functionBody?
  infer_instance

instance (manner : Manner) : Within origin (functionParts grammar manner) := by
  unfold functionParts
  infer_instance

instance (role : FunctionRole) : Within origin (functionName? role) := by
  unfold functionName?
  infer_instance

instance (role : FunctionRole) (start : Nat) (isAsync : Bool)
    (decorations : List Node) [Within origin decorations] :
    Within origin (function grammar role start isAsync decorations) := by
  unfold function
  infer_instance

instance : Within origin atAsyncFunction := by
  unfold atAsyncFunction
  infer_instance

instance (role : FunctionRole) (start : Nat) (decorations : List Node)
    [Within origin decorations] :
    Within origin (asyncFunction grammar role start decorations) := by
  unfold asyncFunction
  infer_instance

instance (isAsync : Bool) : Within origin (arrowBody grammar isAsync) := by
  unfold arrowBody
  infer_instance

/-! ## Accesses, calls and tags -/

instance : Within origin (argument grammar) := by
  unfold argument
  infer_instance

instance : Within origin (callArguments grammar) := by
  unfold callArguments
  infer_instance

instance : Within origin (importArguments grammar) := by
  unfold importArguments
  infer_instance

instance (isTagged : Bool) : Within origin (templateParts grammar isTagged) := by
  unfold templateParts
  infer_instance

instance (start : Nat) (tag : Node) (types : List Node) [Within origin tag]
    [Within origin types] :
    Within origin (taggedTemplate grammar start tag types) := by
  unfold taggedTemplate
  infer_instance

instance : Within origin atTypeArgumentsEnd := by
  unfold atTypeArgumentsEnd
  refine .bind inferInstance fun lexeme => ?_
  split <;> infer_instance

instance (start : Nat) (node : Node) (types : List Node) [Within origin node]
    [Within origin types] : Within origin (instantiated start node types) := by
  unfold instantiated
  infer_instance

instance (start : Nat) (term : Term) [Within origin term] :
    Within origin (withTypeArguments grammar start term) := by
  unfold withTypeArguments
  dsimp only
  refine .bind inferInstance fun isTyped => .bind inferInstance fun isOpen => ?_
  split
  · exact .bind_option inferInstance inferInstance inferInstance
  · infer_instance

instance (start : Nat) (isOptional : Bool) (callee : Node) (types : List Node)
    [Within origin callee] [Within origin types] :
    Within origin (called grammar start isOptional callee types) := by
  unfold called
  infer_instance

instance (start : Nat) (isOptional : Bool) (object : Node)
    [Within origin object] :
    Within origin (indexed grammar start isOptional object) := by
  unfold indexed
  infer_instance

instance (start : Nat) (isOptional : Bool) (object : Node)
    [Within origin object] :
    Within origin (propertyOf grammar start isOptional object) := by
  unfold propertyOf
  refine .bind inferInstance fun lexeme => ?_
  split <;> infer_instance

instance (steps : Steps) (start : Nat) (term : Term) [Within origin term] :
    Within origin (typedStep? grammar steps start term) := by
  unfold typedStep?
  infer_instance

instance (start : Nat) (term : Term) [Within origin term] :
    Within origin (optionalStep grammar start term) := by
  unfold optionalStep
  infer_instance

instance (steps : Steps) (start : Nat) (term : Term) [Within origin term] :
    Within origin (step? grammar steps start term) := by
  unfold step?
  refine .bind inferInstance fun lexeme => ?_
  extract_lets isOptional rest
  have stays (passed : Unit) : Within origin (rest passed) := by
    unfold rest
    split <;> infer_instance
  clear_value rest
  infer_instance

instance (steps : Steps) (start : Nat) (term : Term) [Within origin term] :
    Within origin (chained grammar steps start term) := by
  unfold chained
  infer_instance

instance : Within origin (decoratorRule grammar) := by
  unfold decoratorRule
  infer_instance

instance : Within origin (ancestor grammar) := by
  unfold ancestor
  infer_instance

instance : Within origin (ancestors grammar) := by
  unfold ancestors
  infer_instance

/-! ## Operations -/

instance : Within origin atJoiningOperator := by
  unfold atJoiningOperator
  refine .bind inferInstance fun lexeme => ?_
  split <;> infer_instance

instance (start : Nat) (operation : Operation) [Within origin operation] :
    Within origin (joinOperand grammar start operation) := by
  unfold joinOperand
  infer_instance

instance (start : Nat) (word : String) (operation : Operation)
    [Within origin operation] :
    Within origin (joinType grammar start word operation) := by
  unfold joinType
  infer_instance

instance (start : Nat) (operation : Operation) [Within origin operation] :
    Within origin (operationStep grammar start operation) := by
  unfold operationStep
  refine .bind inferInstance fun lexeme => .bind inferInstance fun isTyped => ?_
  dsimp only
  split
  · split <;> infer_instance
  · infer_instance

instance (start : Nat) (first : Term) [Within origin first] :
    Within origin (operationFrom grammar start first) := by
  unfold operationFrom
  infer_instance

instance : Within origin (operation grammar) := by
  unfold operation
  refine .bind inferInstance fun start => .bind_option inferInstance ?_ ?_
  · infer_instance
  · infer_instance

instance (start : Nat) (left : Term) [Within origin left] :
    Within origin (assignedTo grammar start left) := by
  unfold assignedTo
  infer_instance

instance (start : Nat) (left : Term) [Within origin left] :
    Within origin (assignedApart grammar start left) := by
  unfold assignedApart
  split
  · infer_instance
  · next parts equality =>
      have : Within origin parts := .of_some equality
      infer_instance

instance (start : Nat) (left : Term) [Within origin left] :
    Within origin (withAssignment grammar start left) := by
  unfold withAssignment
  refine .bind inferInstance fun lexeme => ?_
  split
  · split
    · infer_instance
    · split <;> infer_instance
  · infer_instance

instance : Within origin (alternatives grammar) := by
  unfold alternatives
  infer_instance

/-! ## Arrow functions -/

instance (start : Nat) (parts : List Node) [Within origin parts] :
    Within origin (arrowTerm start parts) := by
  unfold arrowTerm
  infer_instance

instance (start : Nat) (isSpread : Bool) :
    Within origin (namedItemValue grammar start isSpread) := by
  unfold namedItemValue
  infer_instance

instance : Within origin atOptionalParameter := by
  unfold atOptionalParameter
  refine .bind inferInstance fun lexeme => ?_
  split <;> infer_instance

instance (start : Nat) (isSpread : Bool) (value : Term) [Within origin value] :
    Within origin (typedItemRest grammar start isSpread value) := by
  unfold typedItemRest
  refine .bind inferInstance fun isOptional => ?_
  extract_lets last rest
  have ends (given : Held origin Term) : Within origin (last given.value) := by
    unfold last
    refine .bind inferInstance fun hasType => ?_
    split
    · split
      · infer_instance
      · next parts equality =>
          have : Within origin parts := .of_some equality
          infer_instance
    · infer_instance
  have stays (passed : Unit) : Within origin (rest passed) := by
    unfold rest
    infer_instance
  infer_instance

instance : Within origin (listItem grammar) := by
  unfold listItem
  infer_instance

instance : Within origin (listItems grammar) := by
  unfold listItems
  infer_instance

instance (start : Nat) (isAsync : Bool) (items : List ListItem)
    (result : List Node) [Within origin items] [Within origin result] :
    Within origin (arrowRest grammar start isAsync items result) := by
  unfold arrowRest
  refine .bind inferInstance fun _ => ?_
  split
  · infer_instance
  · next bound equality =>
      have : Within origin bound := .of_some equality
      infer_instance

instance (start : Nat) (isAsync : Bool) (items : List ListItem)
    [Within origin items] :
    Within origin (chosenArrow grammar start isAsync items) := by
  unfold chosenArrow
  infer_instance

instance : Within origin (arrowResult grammar) := by
  unfold arrowResult
  infer_instance

instance (start : Nat) (isAsync : Bool) (items : List ListItem)
    (result : List Node) [Within origin items] [Within origin result] :
    Within origin (listArrow grammar start isAsync items result) := by
  unfold listArrow
  refine .bind inferInstance fun next => .bind inferInstance fun context => ?_
  extract_lets rest
  have stays (passed : Unit) : Within origin (rest passed) := by
    unfold rest
    refine .bind inferInstance fun read => .bind inferInstance fun lexeme => ?_
    split <;> infer_instance
  clear_value rest
  infer_instance

instance (start : Nat) (isAsync : Bool) (items : List ListItem)
    [Within origin items] : Within origin (listValue start isAsync items) := by
  unfold listValue
  infer_instance

instance (start : Nat) (isAsync : Bool) :
    Within origin (parenthesized grammar start isAsync) := by
  unfold parenthesized
  refine .bind inferInstance fun _ => .bind inferInstance fun items => ?_
  refine .bind inferInstance fun context => .bind inferInstance fun isTyped => ?_
  refine .bind inferInstance fun hasResult => ?_
  extract_lets given rest
  have stays (passed : Unit) : Within origin (rest passed) := by
    unfold rest
    infer_instance
  split
  · exact .bind_option inferInstance inferInstance inferInstance
  · infer_instance

instance (start : Nat) (isAsync : Bool) :
    Within origin (nameArrow grammar start isAsync) := by
  unfold nameArrow
  infer_instance

instance : Within origin (genericAsyncArrow grammar) := by
  unfold genericAsyncArrow
  infer_instance

/-! ## Classes -/

instance : Within origin atFunctionHead := by
  unfold atFunctionHead
  infer_instance

instance : Within origin atFieldRest := by
  unfold atFieldRest
  infer_instance

instance (word : String) : Within origin (acceptTypedWord word) := by
  unfold acceptTypedWord
  infer_instance

instance : Within origin acceptOptionMark := by
  unfold acceptOptionMark
  infer_instance

instance (manner : Manner) (key : Key) (decorations : List Node)
    [Within origin key] [Within origin decorations] :
    Within origin (method grammar manner key decorations) := by
  unfold method
  infer_instance

instance (key : Key) [Within origin key] :
    Within origin (constructorRest grammar key) := by
  unfold constructorRest
  infer_instance

instance (key : Key) (isOptional : Bool) (decorations : List Node)
    [Within origin key] [Within origin decorations] :
    Within origin (fieldRest grammar key isOptional decorations) := by
  unfold fieldRest
  infer_instance

instance (word : String) (decorations : List Node) [Within origin decorations] :
    Within origin (memberNamed? grammar word decorations) := by
  unfold memberNamed?
  infer_instance

instance (word : String) (decorations : List Node) [Within origin decorations] :
    Within origin (modifiedMethod grammar word decorations) := by
  unfold modifiedMethod
  infer_instance

instance (isFixed : Bool) (decorations : List Node) [Within origin decorations] :
    Within origin (keyedMember grammar isFixed decorations) := by
  unfold keyedMember
  refine .bind inferInstance fun isAssigned => ?_
  extract_lets rest
  have stays (key : Held origin Key) : Within origin (rest key.value) := by
    unfold rest
    refine .bind inferInstance fun isOptional => ?_
    refine .bind inferInstance fun isFunction => ?_
    split
    · infer_instance
    refine .bind inferInstance fun next => .bind inferInstance fun isRest => ?_
    extract_lets isAccessor
    refine .bind inferInstance fun _ => .bind inferInstance fun _ => ?_
    split
    · infer_instance
    · split <;> infer_instance
  infer_instance

instance : Within origin atStaticBlock := by
  unfold atStaticBlock
  infer_instance

instance (isAccessible isStatic : Bool) (decorations : List Node)
    [Within origin decorations] :
    Within origin (modifiedMember grammar isAccessible isStatic decorations) := by
  unfold modifiedMember
  infer_instance

instance : Within origin (classMember grammar) := by
  unfold classMember
  refine .bind inferInstance fun decorations => ?_
  extract_lets named?
  have names (isWord : Bool) (word : String) :
      Within origin (named? isWord word) := by
    unfold named?
    infer_instance
  refine .bind inferInstance fun isDeclared => .bind inferInstance fun access => ?_
  refine .bind inferInstance fun isDeclaredLater => ?_
  refine .bind_option inferInstance ?_ inferInstance
  refine .bind inferInstance fun isStatic => .bind inferInstance fun isAccessor => ?_
  refine .bind_option inferInstance ?_ inferInstance
  exact .bind_option inferInstance inferInstance inferInstance

instance : Within origin (classBody grammar) := by
  unfold classBody
  infer_instance

instance : Within origin (base grammar) := by
  unfold base
  infer_instance

instance : Within origin (bases? grammar) := by
  unfold bases?
  infer_instance

instance : Within origin (implemented grammar) := by
  unfold implemented
  infer_instance

instance (isRequired : Bool) : Within origin (className isRequired) := by
  unfold className
  infer_instance

instance (start : Nat) (isNamed : Bool) (decorations : List Node)
    [Within origin decorations] :
    Within origin (classRest grammar start isNamed decorations) := by
  unfold classRest
  infer_instance

/-! ## Values -/

instance (start : Nat) : Within origin (leaf start) := by
  unfold leaf
  infer_instance

instance : Within origin (listElement? grammar) := by
  unfold listElement?
  infer_instance

instance (start : Nat) : Within origin (listLiteral grammar start) := by
  unfold listLiteral
  infer_instance

instance (manner : Manner) (key : Key) [Within origin key] :
    Within origin (recordMethod grammar manner key) := by
  unfold recordMethod
  infer_instance

instance (key : Key) [Within origin key] :
    Within origin (recordGetter grammar key) := by
  unfold recordGetter
  infer_instance

instance (key : Key) [Within origin key] :
    Within origin (recordSetter grammar key) := by
  unfold recordSetter
  infer_instance

instance (word : String) : Within origin (modifiedField grammar word) := by
  unfold modifiedField
  infer_instance

instance (word : String) : Within origin (shortField grammar word) := by
  unfold shortField
  infer_instance

instance (key : Key) [Within origin key] :
    Within origin (keyedField grammar key) := by
  unfold keyedField
  refine .bind inferInstance fun hasValue => ?_
  split
  · infer_instance
  refine .bind inferInstance fun isFunction => ?_
  split
  · infer_instance
  · split <;> infer_instance

instance : Within origin (literalField grammar) := by
  unfold literalField
  infer_instance

instance : Within origin (recordLiteral grammar) := by
  unfold recordLiteral
  infer_instance

instance (start : Nat) : Within origin (templateLiteral grammar start) := by
  unfold templateLiteral
  infer_instance

/-- A pattern is read where its slash stands. -/
theorem withinAt_patternLiteral (start : Nat) {lexeme : Lexeme} {mark : String}
    (token : lexeme.token = .mark mark)
    (slash : mark.toList.head? = some '/') :
    WithinAt origin lexeme (patternLiteral start) := by
  rintro context place standing rfl
  have here : Within origin place := ⟨standing⟩
  have opening : Within origin place.lexeme.place := inferInstance
  rw [standing.2] at token
  obtain ⟨others, whole⟩ := Cursor.prefix_of_lexeme token
  obtain ⟨letters, spelled⟩ := List.head?_eq_some_iff.mp slash
  have first : place.lexeme.place.rest = '/' :: (letters ++ others) := by
    rw [standing.2, ← List.cons_append, ← spelled, whole]
    rfl
  unfold patternLiteral
  rw [Reading.bind_apply, Reading.peek_apply]
  dsimp only
  cases found : closePattern? false (place.lexeme.place.offset + 1)
      (place.lexeme.place.rest.drop 1) with
  | none => exact Reading.allFrom_at standing
  | some behind =>
      rw [first] at found
      have : Within origin behind :=
        ⟨((follows_closePattern? found).trans
          (Cursor.follows_ascii first rfl)).trans opening.allFrom⟩
      exact Reading.allFrom_at standing

instance (start : Nat) : Within origin (mayStartArrow start) := by
  unfold mayStartArrow
  infer_instance

instance (start : Nat) : Within origin (asyncValue? grammar start) := by
  unfold asyncValue?
  refine .bind inferInstance fun next => .bind inferInstance fun mayStart => ?_
  refine .bind inferInstance fun isFunction => ?_
  split
  · infer_instance
  refine .bind inferInstance fun isTyped => ?_
  dsimp only
  split
  · exact .bind_option inferInstance inferInstance inferInstance
  · infer_instance

instance (start : Nat) : Within origin (asyncNameArrow grammar start) := by
  unfold asyncNameArrow
  infer_instance

instance : Within origin variableName := by
  unfold variableName
  refine .bind inferInstance fun lexeme => ?_
  split <;> infer_instance

instance : Within origin (namedValue grammar) := by
  unfold namedValue
  infer_instance

instance (start : Nat) (word : String) :
    Within origin (wordValue grammar start word) := by
  unfold wordValue
  split
  · infer_instance
  split
  · infer_instance
  split
  · infer_instance
  dsimp only
  split
  · exact .bind_option inferInstance inferInstance inferInstance
  · infer_instance

instance : Within origin (value grammar) := by
  unfold value
  refine within_peek fun lexeme => ?_
  dsimp only
  split
  case h_9 token => exact withinAt_patternLiteral _ token rfl
  case h_10 token => exact withinAt_patternLiteral _ token rfl
  all_goals exact withinAt_of_within lexeme.value _

/-! ## Chains -/

instance (steps : Steps) : Within origin (parentChain grammar steps) := by
  unfold parentChain
  refine .bind inferInstance fun start => .bind inferInstance fun _ => ?_
  refine .bind inferInstance fun stop => .bind inferInstance fun isTyped => ?_
  refine .bind inferInstance fun context => .bind inferInstance fun lexeme => ?_
  extract_lets node
  split
  · refine .bind inferInstance fun _ => .bind inferInstance fun next => ?_
    split <;> infer_instance
  · infer_instance
  · infer_instance
  · infer_instance

instance (steps : Steps) : Within origin (importChain grammar steps) := by
  unfold importChain
  infer_instance

instance : Within origin (callTypes? grammar) := by
  unfold callTypes?
  infer_instance

instance (start : Nat) : Within origin (newObject grammar start) := by
  unfold newObject
  infer_instance

instance : Within origin (calleeRule grammar) := by
  unfold calleeRule
  infer_instance

instance : Within origin (chainRule grammar) := by
  unfold chainRule
  infer_instance

/-! ## Expressions -/

instance (start : Nat) : Within origin (assertedOperand grammar start) := by
  unfold assertedOperand
  infer_instance

instance : Within origin atPrefix := by
  unfold atPrefix
  refine .bind inferInstance fun lexeme => ?_
  split <;> infer_instance

instance (start : Nat) : Within origin (prefixedOperand grammar start) := by
  unfold prefixedOperand
  infer_instance

instance (start : Nat) : Within origin (awaited grammar start) := by
  unfold awaited
  infer_instance

instance (start : Nat) : Within origin (countedChain grammar start) := by
  unfold countedChain
  infer_instance

instance : Within origin (operandRule grammar) := by
  unfold operandRule
  infer_instance

instance : Within origin (choice grammar) := by
  unfold choice
  infer_instance

instance : Within origin (yielded grammar) := by
  unfold yielded
  infer_instance

instance : Within origin (plainAssignment grammar) := by
  unfold plainAssignment
  infer_instance

instance : Within origin (genericArrow grammar) := by
  unfold genericArrow awaitingNoColon
  refine .withReader (.bind inferInstance fun start => ?_) _
  refine .bind inferInstance fun quantified => .bind inferInstance fun inner => ?_
  split
  · next extent parts _ equality =>
      have whole : Within origin inner.value.node := inferInstance
      rw [equality] at whole
      have : Within origin parts := .parts_of_arrow whole
      infer_instance
  · infer_instance

instance : Within origin (assignmentRule grammar) := by
  unfold assignmentRule
  refine .bind inferInstance fun second => ?_
  extract_lets mayBeGeneric
  refine .bind inferInstance fun isTyped => .bind inferInstance fun isOpen => ?_
  split
  · refine .bind inferInstance fun isMarked => ?_
    split
    · infer_instance
    · exact .bind_option inferInstance inferInstance inferInstance
  · infer_instance

instance : Within origin (expressionRule grammar) := by
  unfold expressionRule
  infer_instance

end Rules

end Script

end SourceMark
