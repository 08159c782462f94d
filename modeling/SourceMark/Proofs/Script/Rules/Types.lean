import SourceMark.Proofs.Script.Readings
import SourceMark.Script.Types

/-!
# Targets, parameters and types stay within the text
-/

namespace SourceMark

namespace Script

open Reading

/-- All rules of a grammar stay within the text, wherever they start. -/
class Grammar.IsWithin (grammar : Grammar) : Prop where
  expression (origin : Cursor) : Within origin grammar.expression
  assignment (origin : Cursor) : Within origin grammar.assignment
  operand (origin : Cursor) : Within origin grammar.operand
  chain (origin : Cursor) : Within origin grammar.chain
  callee (origin : Cursor) : Within origin grammar.callee
  literal (origin : Cursor) : Within origin grammar.literal
  target (origin : Cursor) : Within origin grammar.target
  decorator (origin : Cursor) : Within origin grammar.decorator
  type (origin : Cursor) : Within origin grammar.type
  plainType (origin : Cursor) : Within origin grammar.plainType
  markup (origin : Cursor) : Within origin grammar.markup
  statement (origin : Cursor) : Within origin grammar.statement
  listed (origin : Cursor) : Within origin grammar.listed
  item (origin : Cursor) : Within origin grammar.item

attribute [instance] Grammar.IsWithin.expression Grammar.IsWithin.assignment
  Grammar.IsWithin.operand Grammar.IsWithin.chain Grammar.IsWithin.callee
  Grammar.IsWithin.literal Grammar.IsWithin.target Grammar.IsWithin.decorator
  Grammar.IsWithin.type Grammar.IsWithin.plainType Grammar.IsWithin.markup
  Grammar.IsWithin.statement Grammar.IsWithin.listed Grammar.IsWithin.item

set_option synthInstance.maxSize 100000

variable {origin : Cursor}

/-! ## What the rules give -/

instance : HasPlaces Key where
  AllFrom := fun origin key => HasPlaces.AllFrom origin key.parts

instance (key : Key) [within : Within origin key] : Within origin key.parts :=
  ⟨within.allFrom⟩

instance (word : Option String) (isConstructor : Bool) (parts : List Node)
    [within : Within origin parts] :
    Within origin ({ word, isConstructor, parts } : Key) :=
  ⟨within.allFrom⟩

instance : HasPlaces Binding where
  AllFrom := fun origin binding => HasPlaces.AllFrom origin binding.parts

instance (binding : Binding) [within : Within origin binding] :
    Within origin binding.parts :=
  ⟨within.allFrom⟩

instance (parts : List Node) (hasDefault isNamed : Bool)
    [within : Within origin parts] :
    Within origin ({ parts, hasDefault, isNamed } : Binding) :=
  ⟨within.allFrom⟩

instance : HasPlaces Parameter where
  AllFrom := fun origin parameter =>
    HasPlaces.AllFrom origin parameter.decorations ∧
      HasPlaces.AllFrom origin parameter.binding

instance (parameter : Parameter) [within : Within origin parameter] :
    Within origin parameter.decorations :=
  ⟨within.allFrom.1⟩

instance (parameter : Parameter) [within : Within origin parameter] :
    Within origin parameter.binding :=
  ⟨within.allFrom.2⟩

instance (decorations : List Node) (binding : Binding)
    [first : Within origin decorations] [second : Within origin binding] :
    Within origin ({ decorations, binding } : Parameter) :=
  ⟨first.allFrom, second.allFrom⟩

instance (parameter : Parameter) [Within origin parameter] :
    Within origin parameter.parts := by
  unfold Parameter.parts
  infer_instance

instance : HasPlaces Presence := .none Presence
instance : Placeless Presence := ⟨fun _ _ => trivial⟩

section Rules

variable (grammar : Grammar) [Grammar.IsWithin grammar]

/-! ## Targets and parameters -/

instance (words : List String) : Within origin (modifier? words) := by
  unfold modifier?
  refine .bind inferInstance fun lexeme => ?_
  split <;> infer_instance

instance (words : List String) : Within origin (acceptModifier words) := by
  unfold acceptModifier
  infer_instance

instance : Within origin acceptParameterModifier := by
  unfold acceptParameterModifier
  refine .bind inferInstance fun lexeme => ?_
  split <;> infer_instance

instance : Within origin (bracketedKey grammar) := by
  unfold bracketedKey
  infer_instance

instance : Within origin (fieldKey grammar) := by
  unfold fieldKey
  refine .bind inferInstance fun lexeme => ?_
  split <;> infer_instance

instance : Within origin (memberKey grammar) := by
  unfold memberKey
  refine .bind inferInstance fun lexeme => ?_
  split <;> infer_instance

instance : Within origin (defaultValue? grammar) := by
  unfold defaultValue?
  infer_instance

instance : Within origin (targetWithDefault grammar) := by
  unfold targetWithDefault
  infer_instance

instance : Within origin acceptDeclaredMark := by
  unfold acceptDeclaredMark
  infer_instance

instance : Within origin (listTarget grammar) := by
  unfold listTarget
  infer_instance

instance : Within origin atLastField := by
  unfold atLastField
  infer_instance

instance : Within origin (targetField grammar) := by
  unfold targetField
  infer_instance

instance : Within origin (recordTarget grammar) := by
  unfold recordTarget
  infer_instance

instance : Within origin (targetRule grammar) := by
  unfold targetRule
  infer_instance

instance : Within origin (typeBehindColon grammar) := by
  unfold typeBehindColon
  infer_instance

instance : Within origin (decorators grammar) := by
  unfold decorators
  infer_instance

instance : Within origin (singleBinding grammar) := by
  unfold singleBinding
  infer_instance

instance : Within origin (restBinding grammar) := by
  unfold restBinding
  infer_instance

instance : Within origin (parameter grammar) := by
  unfold parameter
  infer_instance

instance : Within origin (parameters grammar) := by
  unfold parameters
  infer_instance

instance : Within origin (constructorParameter grammar) := by
  unfold constructorParameter
  infer_instance

/-! ## Signatures -/

instance : Within origin (typeArguments grammar) := by
  unfold typeArguments
  infer_instance

instance : Within origin (optionalTypeArguments grammar) := by
  unfold optionalTypeArguments
  infer_instance

instance : Within origin (typeArgumentsOnLine grammar) := by
  unfold typeArgumentsOnLine
  infer_instance

instance : Within origin (typeParameter grammar) := by
  unfold typeParameter
  infer_instance

instance : Within origin (typeParameters grammar) := by
  unfold typeParameters
  infer_instance

instance : Within origin (optionalTypeParameters grammar) := by
  unfold optionalTypeParameters
  infer_instance

instance : Within origin (returnType grammar) := by
  unfold returnType
  infer_instance

instance : Within origin (optionalReturnType grammar) := by
  unfold optionalReturnType
  infer_instance

instance : Within origin (signatureParameters grammar) := by
  unfold signatureParameters
  infer_instance

instance : Within origin (signature grammar) := by
  unfold signature
  infer_instance

instance (name : Reading String) [Within origin name] :
    Within origin (qualifiers name) := by
  unfold qualifiers
  refine .bind (within_many ?_) fun found => inferInstance
  refine .bind inferInstance fun continues => ?_
  split
  · refine .bind inferInstance fun lexeme => ?_
    split <;> infer_instance
  · infer_instance

instance : Within origin entityName := by
  unfold entityName
  infer_instance

instance : Within origin plainEntityName := by
  unfold plainEntityName
  infer_instance

/-! ## Members of object types -/

instance : Within origin endMember := by
  unfold endMember
  infer_instance

instance : Within origin (memberName grammar) := by
  unfold memberName
  refine .bind inferInstance fun lexeme => ?_
  split <;> infer_instance

instance : Within origin atIndexMember := by
  unfold atIndexMember
  infer_instance

instance : Within origin (indexMember grammar) := by
  unfold indexMember
  infer_instance

instance : Within origin (accessorMember grammar) := by
  unfold accessorMember
  refine .bind inferInstance fun isRead => ?_
  split
  · infer_instance
  · refine .bind inferInstance fun _ => .bind inferInstance fun name => ?_
    refine .bind inferInstance fun written => ?_
    obtain ⟨written, within⟩ := written
    cases written with
    | nil => infer_instance
    | cons first others =>
        have : Within origin first :=
          ⟨within.allFrom first List.mem_cons_self⟩
        infer_instance

instance (isFixed : Bool) : Within origin (plainMember grammar isFixed) := by
  unfold plainMember
  infer_instance

instance : Within origin (typeMember grammar) := by
  unfold typeMember
  refine .bind inferInstance fun second => ?_
  refine .bind inferInstance fun first => .bind inferInstance fun other => ?_
  split
  · infer_instance
  refine .bind inferInstance fun isNew => ?_
  split
  · infer_instance
  refine .bind inferInstance fun isFixed => ?_
  refine .bind inferInstance fun isIndex => ?_
  split
  · infer_instance
  dsimp only
  split
  · infer_instance
  · exact .bind_option inferInstance inferInstance inferInstance

instance : Within origin (typeMembers grammar) := by
  unfold typeMembers
  infer_instance

instance : Within origin acceptSign := by
  unfold acceptSign
  infer_instance

instance : Within origin atMappedType := by
  unfold atMappedType
  infer_instance

instance : Within origin (mappedType grammar) := by
  unfold mappedType
  refine .bind inferInstance fun _ => .bind inferInstance fun isSigned => ?_
  dsimp only
  split <;> infer_instance

/-! ## Types -/

instance (word : String) : Within origin (namedType grammar word) := by
  unfold namedType
  infer_instance

instance : Within origin (importOptions grammar) := by
  unfold importOptions
  infer_instance

instance : Within origin (importType grammar) := by
  unfold importType
  infer_instance

instance : Within origin (queriedType grammar) := by
  unfold queriedType
  infer_instance

instance : Within origin (ownType grammar) := by
  unfold ownType
  infer_instance

instance : Within origin (ownAssertion grammar) := by
  unfold ownAssertion
  infer_instance

instance : Within origin elementLabel := by
  unfold elementLabel
  infer_instance

instance : Within origin (tupleElement grammar) := by
  unfold tupleElement
  infer_instance

instance : Within origin (tupleType grammar) := by
  unfold tupleType
  infer_instance

instance : Within origin (primaryType grammar) := by
  unfold primaryType
  refine .bind inferInstance fun lexeme => ?_
  split <;> infer_instance

instance : Within origin (indexedType grammar) := by
  unfold indexedType
  infer_instance

instance : Within origin (inferredBound grammar) := by
  unfold inferredBound
  infer_instance

instance : Within origin (prefixedType grammar) := by
  unfold prefixedType
  refine .bind (within_many ?_) fun operators => inferInstance
  refine .bind inferInstance fun lexeme => ?_
  split <;> infer_instance

instance (mark : String) (item : Reading (List Node)) [Within origin item] :
    Within origin (joinedTypes mark item) := by
  unfold joinedTypes
  infer_instance

instance : Within origin (unionType grammar) := by
  unfold unionType
  infer_instance

instance : Within origin (atFunctionType grammar) := by
  unfold atFunctionType
  infer_instance

instance : Within origin (functionType grammar) := by
  unfold functionType
  infer_instance

instance : Within origin (plainTypeRule grammar) := by
  unfold plainTypeRule
  infer_instance

instance : Within origin (typeRule grammar) := by
  unfold typeRule
  infer_instance

end Rules

end Script

end SourceMark
