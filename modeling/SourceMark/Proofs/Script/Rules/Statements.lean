import SourceMark.Proofs.Script.Rules.Values
import SourceMark.Script.Module

/-!
# Statements and modules stay within the text
-/

namespace SourceMark

namespace Script

open Reading

set_option synthInstance.maxSize 100000

variable {origin : Cursor}

/-! ## What the rules give -/

instance : HasPlaces VariableKind := .none VariableKind
instance : Placeless VariableKind := ⟨fun _ _ => trivial⟩

instance : HasPlaces ImportHead := .none ImportHead
instance : Placeless ImportHead := ⟨fun _ _ => trivial⟩

instance : HasPlaces LoopStart where
  AllFrom := fun origin start =>
    Within origin start.parts ∧ Within origin start.assigned

instance (start : LoopStart) [within : Within origin start] :
    Within origin start.parts :=
  within.allFrom.1

instance (start : LoopStart) [within : Within origin start] :
    Within origin start.assigned :=
  within.allFrom.2

instance (parts : List Node) (assigned : Option (List Node))
    [first : Within origin parts] [second : Within origin assigned] :
    Within origin ({ parts, assigned } : LoopStart) :=
  ⟨first, second⟩

instance (declared : List Node) [Within origin declared] :
    Within origin (LoopStart.ofVariables declared) := by
  unfold LoopStart.ofVariables
  infer_instance

instance : HasPlaces Case where
  AllFrom := fun origin item => Within origin item.test ∧ Within origin item.body

instance (item : Case) [within : Within origin item] : Within origin item.test :=
  within.allFrom.1

instance (item : Case) [within : Within origin item] : Within origin item.body :=
  within.allFrom.2

instance (test : Option Node) (body : List Node) [first : Within origin test]
    [second : Within origin body] : Within origin ({ test, body } : Case) :=
  ⟨first, second⟩

section Rules

variable (grammar : Grammar) [Grammar.IsWithin grammar]

/-! ## Variables -/

instance : Within origin variableKind? := by
  unfold variableKind?
  refine .bind inferInstance fun lexeme => ?_
  split
  · split <;> infer_instance
  · infer_instance

instance (kind : VariableKind) : Within origin (variableTarget grammar kind) := by
  unfold variableTarget
  infer_instance

instance (kind : VariableKind) (inLoop : Bool) (target : Target)
    [Within origin target] : Within origin (mayLackValue kind inLoop target) := by
  unfold mayLackValue
  infer_instance

instance : Within origin atLoopSubject := by
  unfold atLoopSubject
  infer_instance

instance (kind : VariableKind) (inLoop : Bool) :
    Within origin (declarator grammar kind inLoop) := by
  unfold declarator
  infer_instance

instance (kind : VariableKind) (inLoop : Bool) :
    Within origin (declarators grammar kind inLoop) := by
  unfold declarators
  infer_instance

instance : Within origin skipStatement := by
  unfold skipStatement
  infer_instance

instance : Within origin (endVariables grammar) := by
  unfold endVariables
  infer_instance

instance (kind : VariableKind) :
    Within origin (variableStatement grammar kind) := by
  unfold variableStatement
  infer_instance

instance : Within origin atDisposed := by
  unfold atDisposed
  infer_instance

instance : Within origin (disposedVariables grammar) := by
  unfold disposedVariables
  infer_instance

/-! ## Declarations -/

instance : Within origin (enumeratedName grammar) := by
  unfold enumeratedName
  refine .bind inferInstance fun lexeme => ?_
  split <;> infer_instance

instance : Within origin (enumerated grammar) := by
  unfold enumerated
  infer_instance

instance : Within origin (enumerationRest grammar) := by
  unfold enumerationRest
  infer_instance

instance : Within origin (interfaceRest grammar) := by
  unfold interfaceRest
  infer_instance

instance : Within origin (typeNameRest grammar) := by
  unfold typeNameRest
  infer_instance

instance : Within origin (itemBlock grammar) := by
  unfold itemBlock
  infer_instance

instance : Within origin (namespaceRest grammar) := by
  unfold namespaceRest
  infer_instance

instance : Within origin (foreignItems grammar) := by
  unfold foreignItems
  infer_instance

instance (word : String) (isCertain : Bool) (start : Nat)
    (decorations : List Node) [Within origin decorations] :
    Within origin (declaredBy? grammar word isCertain start decorations) := by
  unfold declaredBy?
  refine .bind inferInstance fun next => ?_
  extract_lets onLine isNamed grouped
  have groups (rest : Reading (List Node)) [Within origin rest] :
      Within origin (grouped rest) := by
    unfold grouped
    infer_instance
  clear_value grouped
  split <;> infer_instance

instance (start : Nat) (decorations : List Node) [Within origin decorations] :
    Within origin (certainDeclaration? grammar start decorations) := by
  unfold certainDeclaration?
  refine .bind inferInstance fun lexeme => ?_
  split <;> infer_instance

instance (start : Nat) (decorations : List Node) [Within origin decorations] :
    Within origin (declaration? grammar start decorations) := by
  unfold declaration?
  refine .withReader (.bind inferInstance fun next => ?_) _
  refine .bind inferInstance fun lexeme => ?_
  split
  · infer_instance
  · infer_instance
  · infer_instance
  · split
    · infer_instance
    · split <;> infer_instance
  · infer_instance

instance (name : String) (start : Nat) (decorations : List Node)
    [Within origin decorations] :
    Within origin (declaredByName? grammar name start decorations) := by
  unfold declaredByName?
  split
  · infer_instance
  split
  · infer_instance
  · exact .bind_option inferInstance inferInstance inferInstance

/-! ## Loops -/

instance : Within origin (atNamelessLoop grammar) := by
  unfold atNamelessLoop
  infer_instance

instance (kind : VariableKind) : Within origin (loopVariables grammar kind) := by
  unfold loopVariables
  refine .bind inferInstance fun _ => .bind inferInstance fun isNameless => ?_
  split
  · infer_instance
  · dsimp only
    split <;> infer_instance

instance (start : Term) (isWaiting : Bool) [Within origin start] :
    Within origin (atDisposedName start isWaiting) := by
  unfold atDisposedName
  infer_instance

instance : Within origin (loopExpression grammar) := by
  unfold loopExpression
  infer_instance

instance (start : List Node) [Within origin start] :
    Within origin (countingRest grammar start) := by
  unfold countingRest
  infer_instance

instance (isWaiting : Bool) (start : LoopStart) [Within origin start] :
    Within origin (throughRest grammar isWaiting start) := by
  unfold throughRest
  split
  · infer_instance
  · next target equality =>
      have : Within origin target := .of_some equality
      infer_instance

instance : Within origin (loopStart grammar) := by
  unfold loopStart
  exact .bind_option inferInstance inferInstance inferInstance

instance : Within origin (loopRest grammar) := by
  unfold loopRest
  infer_instance

/-! ## Statements -/

instance : Within origin (condition grammar) := by
  unfold condition
  infer_instance

instance : Within origin (caseBody grammar) := by
  unfold caseBody
  infer_instance

instance : Within origin (case? grammar) := by
  unfold case?
  infer_instance

instance : Within origin (casesRest grammar) := by
  unfold casesRest
  infer_instance

instance : Within origin (handler grammar) := by
  unfold handler
  infer_instance

instance : Within origin (finalizer grammar) := by
  unfold finalizer
  infer_instance

instance : Within origin (handledRest grammar) := by
  unfold handledRest
  infer_instance

instance : Within origin (strayHandler grammar) := by
  unfold strayHandler
  infer_instance

instance (word : String) : Within origin (wordStatement? grammar word) := by
  unfold wordStatement?
  split <;> infer_instance

instance (start : Nat) (value : Term) [Within origin value] :
    Within origin (endExpression grammar start value) := by
  unfold endExpression
  refine .bind inferInstance fun ends => ?_
  split
  · infer_instance
  · refine .bind inferInstance fun lexeme => ?_
    split <;> infer_instance

instance : Within origin (labelled grammar) := by
  unfold labelled
  infer_instance

instance (decorations : List Node) [Within origin decorations] :
    Within origin (expressionStatement grammar decorations) := by
  unfold expressionStatement
  refine .bind inferInstance fun start => .bind inferInstance fun value => ?_
  dsimp only
  split
  · refine .bind inferInstance fun isLabel => ?_
    split
    · infer_instance
    refine .bind inferInstance fun next => ?_
    split
    · infer_instance
    refine .bind inferInstance fun isTyped => ?_
    split
    · exact .bind_option inferInstance inferInstance inferInstance
    · infer_instance
  · infer_instance

instance : Within origin (awaitedStatement grammar) := by
  unfold awaitedStatement
  infer_instance

instance : Within origin (importStatement grammar) := by
  unfold importStatement
  infer_instance

instance : Within origin atAwaitedDisposal := by
  unfold atAwaitedDisposal
  infer_instance

instance : Within origin (listedDeclaration? grammar) := by
  unfold listedDeclaration?
  exact .bind_option inferInstance inferInstance inferInstance

instance : Within origin (namedDeclaration? grammar) := by
  unfold namedDeclaration?
  infer_instance

instance (isListed : Bool) (decorations : List Node) (lexeme : Lexeme)
    (word : String) [Within origin decorations] [Within origin lexeme] :
    Within origin (statementOfWord grammar isListed decorations lexeme word) := by
  unfold statementOfWord
  extract_lets start others
  have stays (passed : Unit) : Within origin (others passed) := by
    unfold others
    exact .bind_option inferInstance inferInstance inferInstance
  clear_value others
  split
  · next rest equality =>
      have : Within origin rest := .of_some equality
      infer_instance
  split
  · infer_instance
  refine .bind inferInstance fun isAsync => ?_
  split
  · infer_instance
  split
  · infer_instance
  split
  · infer_instance
  split
  · exact .bind_option inferInstance inferInstance inferInstance
  · infer_instance

instance (isListed : Bool) (decorations : List Node) [Within origin decorations] :
    Within origin (statementBehind grammar isListed decorations) := by
  unfold statementBehind awaitingNoColon
  refine .withReader (.bind inferInstance fun lexeme => ?_) _
  refine .bind inferInstance fun next => .bind inferInstance fun context => ?_
  dsimp only
  split <;> infer_instance

instance (isListed : Bool) : Within origin (statementRule grammar isListed) := by
  unfold statementRule
  infer_instance

/-! ## Imports -/

instance : Within origin (loadOptions grammar) := by
  unfold loadOptions
  infer_instance

instance : Within origin (moduleName grammar) := by
  unfold moduleName
  infer_instance

instance : Within origin (fromModule grammar) := by
  unfold fromModule
  infer_instance

instance : Within origin atAnyWord := by
  unfold atAnyWord
  refine .bind inferInstance fun lexeme => ?_
  split <;> infer_instance

instance : Within origin sharedName := by
  unfold sharedName
  infer_instance

instance (renamed : Reading Unit) [Within origin renamed] :
    Within origin (importedType renamed) := by
  unfold importedType
  infer_instance

instance : Within origin importedName := by
  unfold importedName
  infer_instance

instance (name : Reading Unit) [Within origin name] :
    Within origin (namesBetween name) := by
  unfold namesBetween
  infer_instance

instance : Within origin importedEntity := by
  unfold importedEntity
  infer_instance

instance (phase : ImportPhase) : Within origin (importedNames phase) := by
  unfold importedNames
  infer_instance

instance : Within origin atImportedName := by
  unfold atImportedName
  infer_instance

instance : Within origin atUnnamed := by
  unfold atUnnamed
  infer_instance

instance : Within origin importHeadRest := by
  unfold importHeadRest
  infer_instance

instance (word : String) : Within origin (importHeadBehind word) := by
  unfold importHeadBehind
  refine .bind inferInstance fun second => ?_
  extract_lets next rest
  have stays (passed : Unit) : Within origin (rest passed) := by
    unfold rest
    refine .bind inferInstance fun isTyped => .bind inferInstance fun isEntity => ?_
    split
    · infer_instance
    · split <;> infer_instance
  clear_value rest
  infer_instance

instance : Within origin importHead := by
  unfold importHead
  infer_instance

instance : Within origin (importRest grammar) := by
  unfold importRest
  refine .bind inferInstance fun lexeme => ?_
  split
  · infer_instance
  refine .bind inferInstance fun head => ?_
  split <;> infer_instance

/-! ## Exports -/

instance (renamed : Reading Unit) [Within origin renamed] :
    Within origin (exportedType renamed) := by
  unfold exportedType
  infer_instance

instance : Within origin exportedName := by
  unfold exportedName
  infer_instance

instance : Within origin (exportedNames grammar) := by
  unfold exportedNames
  infer_instance

instance : Within origin (exportedList grammar) := by
  unfold exportedList
  infer_instance

instance (decorations : List Node) [Within origin decorations] :
    Within origin (laterDecorators grammar decorations) := by
  unfold laterDecorators
  infer_instance

instance (start : Nat) (decorations : List Node) [Within origin decorations] :
    Within origin (typedDefault? grammar start decorations) := by
  unfold typedDefault?
  infer_instance

instance (decorations : List Node) [Within origin decorations] :
    Within origin (defaultExport grammar decorations) := by
  unfold defaultExport
  refine .bind inferInstance fun later => .bind inferInstance fun start => ?_
  exact .bind_option inferInstance inferInstance inferInstance

instance (decorations : List Node) [Within origin decorations] :
    Within origin (exportedDeclaration grammar decorations) := by
  unfold exportedDeclaration
  refine .bind inferInstance fun later => .bind inferInstance fun start => ?_
  refine .bind inferInstance fun next => .bind inferInstance fun isClass => ?_
  split
  · infer_instance
  refine .bind inferInstance fun isAsync => ?_
  split
  · infer_instance
  refine .bind inferInstance fun isFunction => ?_
  split
  · infer_instance
  refine .bind inferInstance fun isTyped => .bind inferInstance fun isFixed => ?_
  split
  · infer_instance
  refine .bind inferInstance fun lexeme => ?_
  split
  · split <;> infer_instance
  · infer_instance

instance (decorations : List Node) [Within origin decorations] :
    Within origin (typedExport? grammar decorations) := by
  unfold typedExport?
  refine .bind inferInstance fun start => .bind inferInstance fun declares => ?_
  extract_lets entity rest
  have names (passed : Unit) : Within origin (entity passed) := by
    unfold entity
    infer_instance
  clear_value entity
  have stays (passed : Unit) : Within origin (rest passed) := by
    unfold rest
    refine .bind inferInstance fun inner => ?_
    exact .bind_option inferInstance inferInstance inferInstance
  clear_value rest
  split
  · exact .bind_option inferInstance inferInstance inferInstance
  · infer_instance

instance (decorations : List Node) [Within origin decorations] :
    Within origin (exportRest grammar decorations) := by
  unfold exportRest
  refine .bind inferInstance fun isTyped => ?_
  dsimp only
  split
  · exact .bind_option inferInstance inferInstance inferInstance
  · infer_instance

/-! ## Modules -/

instance : Within origin atImportExpression := by
  unfold atImportExpression
  infer_instance

instance : Within origin (itemRule grammar) := by
  unfold itemRule
  infer_instance

instance : Within origin (items grammar) := by
  unfold items
  infer_instance

end Rules

/-! ## Whole scripts -/

instance : Grammar.IsWithin Grammar.exhausted where
  expression _ := inferInstanceAs (Within _ (fail : Reading Term))
  assignment _ := inferInstanceAs (Within _ (fail : Reading Term))
  operand _ := inferInstanceAs (Within _ (fail : Reading Term))
  chain _ := inferInstanceAs (Within _ (fail : Reading Term))
  callee _ := inferInstanceAs (Within _ (fail : Reading Term))
  literal _ := inferInstanceAs (Within _ (fail : Reading Term))
  target _ := inferInstanceAs (Within _ (fail : Reading Target))
  decorator _ := inferInstanceAs (Within _ (fail : Reading Node))
  type _ := inferInstanceAs (Within _ (fail : Reading (List Node)))
  plainType _ := inferInstanceAs (Within _ (fail : Reading (List Node)))
  markup _ := inferInstanceAs (Within _ (fail : Reading Node))
  statement _ := inferInstanceAs (Within _ (fail : Reading Node))
  listed _ := inferInstanceAs (Within _ (fail : Reading Node))
  item _ := inferInstanceAs (Within _ (fail : Reading Node))

/-- Rules that call one another stay within the text, however deep they do. -/
instance (depth : Nat) : Grammar.IsWithin (grammarWithin depth) := by
  induction depth with
  | zero => exact inferInstanceAs (Grammar.IsWithin Grammar.exhausted)
  | succ depth induction =>
      constructor
      all_goals intro origin
      · exact inferInstanceAs (Within origin (expressionRule (grammarWithin depth)))
      · exact inferInstanceAs (Within origin (assignmentRule (grammarWithin depth)))
      · exact inferInstanceAs (Within origin (operandRule (grammarWithin depth)))
      · exact inferInstanceAs (Within origin (chainRule (grammarWithin depth)))
      · exact inferInstanceAs (Within origin (calleeRule (grammarWithin depth)))
      · exact inferInstanceAs (Within origin (recordLiteral (grammarWithin depth)))
      · exact inferInstanceAs (Within origin (targetRule (grammarWithin depth)))
      · exact inferInstanceAs (Within origin (decoratorRule (grammarWithin depth)))
      · exact inferInstanceAs (Within origin (typeRule (grammarWithin depth)))
      · exact inferInstanceAs (Within origin (plainTypeRule (grammarWithin depth)))
      · exact inferInstanceAs (Within origin (markupRule (grammarWithin depth)))
      · exact inferInstanceAs
          (Within origin (statementRule (grammarWithin depth) false))
      · exact inferInstanceAs
          (Within origin (statementRule (grammarWithin depth) true))
      · exact inferInstanceAs (Within origin (itemRule (grammarWithin depth)))

theorem follows_behindInterpreter (text : List Char) :
    (behindInterpreter text).Follows (.ofText text) := by
  unfold behindInterpreter
  split
  · next rest =>
      exact (Cursor.follows_takeWhile _ 2 rest).trans
        (Cursor.follows_skip 2 (.ofText ('#' :: '!' :: rest)))
  · exact Cursor.Follows.refl _

/-- The tree of a script is within the script. -/
theorem within_of_readModule {dialect : Dialect} {text : List Char}
    {nodes : List Node} (read : readModule dialect text = .ok nodes) :
    Within (.ofText text) nodes := by
  have stays : Within (.ofText text)
      (items (grammarWithin (8 * (text.length + 2)))) := inferInstance
  have cursor : Within (.ofText text) (behindInterpreter text) :=
    ⟨follows_behindInterpreter text⟩
  have start : Within (.ofText text)
      (Place.ofCursor (behindInterpreter text)) := inferInstance
  have reached := stays.allFrom (Context.ofModule dialect (text.length + 2)) _
    start.allFrom
  simp only [readModule] at read
  split at read
  · next found =>
      obtain rfl := by simpa using read
      rw [found] at reached
      exact ⟨reached.1⟩
  · simp at read

/-- The opening tags of a script lie in its text. -/
theorem liesBehind_of_readModule {dialect : Dialect} {text : List Char}
    {nodes : List Node} (read : readModule dialect text = .ok nodes)
    {opening : Opening} (member : .element opening ∈ Node.sitesAll nodes) :
    opening.LiesBehind (.ofText text) := by
  obtain ⟨node, inside, found⟩ := mem_sitesAll.mp member
  exact (within_of_readModule read).allFrom node inside opening found

/-- A script with an element has both angle brackets. -/
theorem brackets_of_element {dialect : Dialect} {text : List Char}
    {nodes : List Node} (read : readModule dialect text = .ok nodes)
    {opening : Opening} (member : .element opening ∈ Node.sitesAll nodes) :
    '<' ∈ text ∧ '>' ∈ text :=
  (liesBehind_of_readModule read member).brackets

end Script

end SourceMark
