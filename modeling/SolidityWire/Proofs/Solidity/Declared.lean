/-
What a source unit declares: types with their fields or members, and functions with their parameters and local
variables. The declarations of a shape are told by the shape: its type, its three functions, and no local variables
but those that functions have for themselves and one for each field.
-/
import SolidityWire.Proofs.Except
import SolidityWire.Proofs.Shape.Origin
import SolidityWire.Solidity.Library

namespace SolidityWire.Solidity

/-! ## Declared names -/

/-- The name of the type that is declared. -/
def Declaration.typeName? : Declaration → Option String
  | struct name _ | enum name _ => some name
  | function _ => none

/-- The names of the fields of a struct. -/
def Declaration.fieldNames : Declaration → List String
  | struct _ fields => fields.map Prod.snd
  | _ => []

/-- The names of the members of an enumeration. -/
def Declaration.memberNames : Declaration → List String
  | enum _ members => members
  | _ => []

/-- The function that is declared. -/
def Declaration.function? : Declaration → Option Function
  | function f => some f
  | _ => none

@[simp] theorem function?_struct (name : String) (fields : List (String × String)) :
    (Declaration.struct name fields).function? = none := rfl

@[simp] theorem function?_encoder (key : String) (place : Place) (body : List Statement) :
    (encoder key place body).function? =
      some ⟨"encode_" ++ key, [⟨place, "input"⟩], internalPure, [inMemory "bytes"], body⟩ := rfl

@[simp] theorem function?_decoderAt (key : String) (place : Place) (body : List Statement) :
    (decoderAt key place body).function? =
      some ⟨"decode_at_" ++ key, decoderParameters, internalPure, [onStack "uint256", place], body⟩ := rfl

/-- What tells a function from others: its name and the types of its parameters. -/
def Function.signature (f : Function) : String × List String :=
  (f.name, f.parameters.map (·.place.type))

/-- The declarations of the library. -/
def Source.declarations (s : Source) : List Declaration :=
  s.groups.flatten

/-- The functions of the library. -/
def Source.libraryFunctions (s : Source) : List Function :=
  s.declarations.filterMap Declaration.function?

/-- All functions, those outside of the library first. -/
def Source.allFunctions (s : Source) : List Function :=
  s.functions ++ s.libraryFunctions

/-! ## Local variables -/

/-- The variable that the head of a block declares: the counter of a loop. -/
def headLocals (head : String) : List String :=
  let start := "for (uint256 ".toList
  if start.isPrefixOf head.toList then
    [String.ofList ((head.toList.drop start.length).takeWhile (· ≠ ' '))]
  else []

mutual

/-- The local variables that a statement declares, those of the statements in it included. -/
def Statement.locals : Statement → List String
  | .run _ => []
  | .declare v _ => [v.name]
  | .block parts => partLocals parts
termination_by structural s => s

/-- The local variables that statements declare. -/
def Statement.localsOf : List Statement → List String
  | [] => []
  | s :: ss => s.locals ++ Statement.localsOf ss
termination_by structural ss => ss

/-- The local variables that the parts of a block declare. -/
def partLocals : List (String × List Statement) → List String
  | [] => []
  | (head, body) :: parts => headLocals head ++ Statement.localsOf body ++ partLocals parts
termination_by structural parts => parts

end

/-- The local variables of a function. -/
def Function.locals (f : Function) : List String :=
  Statement.localsOf f.body

@[simp] theorem localsOf_nil : Statement.localsOf [] = [] := rfl

@[simp] theorem localsOf_cons (s : Statement) (ss : List Statement) :
    Statement.localsOf (s :: ss) = s.locals ++ Statement.localsOf ss := rfl

@[simp] theorem localsOf_append (ss ss' : List Statement) :
    Statement.localsOf (ss ++ ss') = Statement.localsOf ss ++ Statement.localsOf ss' := by
  induction ss with
  | nil => rfl
  | cons s ss ih => rw [List.cons_append, localsOf_cons, localsOf_cons, ih, List.append_assoc]

@[simp] theorem locals_run (text : String) : (Statement.run text).locals = [] := rfl

@[simp] theorem locals_give (value : String) : (give value).locals = [] := rfl

@[simp] theorem locals_require (condition reason : String) : (require condition reason).locals = [] := rfl

@[simp] theorem locals_declare (place : Place) (name : String) : (declare place name).locals = [name] := rfl

@[simp] theorem locals_define (place : Place) (name value : String) : (define place name value).locals = [name] := rfl

@[simp] theorem locals_decodeCall (target : String) (s : Shape) : (decodeCall target s).locals = [] := rfl

@[simp] theorem locals_appendEncoded (s : Shape) (value : String) : (appendEncoded s value).locals = [] := rfl

@[simp] theorem locals_under (head : String) (body : List Statement) :
    (under head body).locals = headLocals head ++ Statement.localsOf body := by
  simp [under, Statement.locals, partLocals]

/-- A loop declares its counter. -/
@[simp] theorem locals_repeatBelow (bound : String) (body : List Statement) :
    (repeatBelow bound body).locals = "i" :: Statement.localsOf body := by
  have hhead : headLocals ("for (uint256 i = 0; i < " ++ bound ++ "; i++)") = ["i"] := by
    unfold headLocals
    have hword : "for (uint256 i = 0; i < ".toList = "for (uint256 ".toList ++ "i = 0; i < ".toList := by decide
    simp [String.toList_append, hword]
  rw [repeatBelow, locals_under, hhead]
  rfl

/-! ## Places -/

section Places

variable {t : Table} {s s' : Shape}

/-- A shape that stands for one has a place. -/
theorem exists_place (h : t.resolve? s = some s') : ∃ place, placeOf t s = .ok place := by
  unfold placeOf Table.needsMemory?
  rw [h, Option.map_some]
  split
  · exact ⟨_, rfl⟩
  · exact ⟨_, rfl⟩
  · rename_i hnone
    cases hnone

theorem resolve?_of_solid (h : s.isReference = false) : t.resolve? s = some s := by
  cases s with
  | reference _ => cases h
  | _ => rfl

/-- A reference to a registered shape stands for it, and any other shape for itself. -/
theorem exists_resolve_of_mem (h : s.key ∈ t.keys) : ∃ s', t.resolve? s = some s' := by
  cases s with
  | reference name => exact Table.mem_keys_iff.1 h
  | _ => exact ⟨_, rfl⟩

end Places

/-! ## The declarations of a shape -/

/-- The local variables that functions have for themselves. -/
def ownLocals : List String :=
  ["new_pos", "value", "result", "i", "len", "has_value", "values", "choice", "input_bytes", "number_char", "end",
    "lead", "shift", "next_byte"]

/-- The name of the type that is declared for a shape: sequences are arrays, and most primitive types are there. -/
def typeNames : Shape → List String
  | .primitive .unit => ["empty_struct"]
  | .primitive _ | .reference _ | .sequence _ => []
  | s => [s.key]

/-- What tells the functions of a shape: the encoder takes a value, the decoder of a part a position and the input,
and the decoder of a whole only the input. -/
def signatures (s : Shape) : List (String × List String) :=
  [("encode_" ++ s.key, [s.typeName]), ("decode_at_" ++ s.key, ["uint256", "bytes"]), ("decode_" ++ s.key, ["bytes"])]

/-- What the declarations of a shape declare. -/
structure Declares (t : Table) (s : Shape) (group : List Declaration) : Prop where
  types : group.filterMap Declaration.typeName? = typeNames s
  fields : group.flatMap Declaration.fieldNames = s.fieldNames
  members : group.flatMap Declaration.memberNames = s.memberNames
  signatures : (group.filterMap Declaration.function?).map Function.signature = signatures s
  locals : (group.filterMap Declaration.function?).flatMap Function.locals ⊆
    ownLocals ++ s.fieldNames.map (localName t)

section Declarations

variable {t : Table} {s : Shape}

/-- A decoder of whole inputs is declared behind the others. -/
theorem declares_append {main : List Declaration} (place : Place)
    (types : main.filterMap Declaration.typeName? = typeNames s)
    (fields : main.flatMap Declaration.fieldNames = s.fieldNames)
    (members : main.flatMap Declaration.memberNames = s.memberNames)
    (signatures : (main.filterMap Declaration.function?).map Function.signature =
      [("encode_" ++ s.key, [s.typeName]), ("decode_at_" ++ s.key, ["uint256", "bytes"])])
    (locals : (main.filterMap Declaration.function?).flatMap Function.locals ⊆
      ownLocals ++ s.fieldNames.map (localName t)) :
    Declares t s (main ++ [wholeDecoder s.key place]) where
  types := by simp [types, wholeDecoder, Declaration.typeName?]
  fields := by simp [fields, wholeDecoder, Declaration.fieldNames]
  members := by simp [members, wholeDecoder, Declaration.memberNames]
  signatures := by
    simp [signatures, wholeDecoder, Declaration.function?, Function.signature, Solidity.signatures, inputBytes, inMemory]
  locals := by
    rw [List.filterMap_append, List.flatMap_append]
    have hwhole : ([wholeDecoder s.key place].filterMap Declaration.function?).flatMap Function.locals =
        ["new_pos", "value"] := rfl
    rw [hwhole]
    refine List.append_subset.2 ⟨locals, fun name hname => List.mem_append_left _ ?_⟩
    rcases List.mem_cons.1 hname with rfl | hname
    · decide
    · cases List.mem_singleton.1 hname
      decide

theorem declares_primitive (p : Primitive) (place : Place) :
    Declares t (.primitive p) (primitiveDeclarations p ++ [wholeDecoder p.key place]) := by
  refine declares_append (s := .primitive p) place ?_ ?_ ?_ ?_ (List.subset_append_of_subset_left _ ?_)
  · cases p <;> rfl
  · cases p <;> rfl
  · cases p <;> rfl
  · cases p <;> rfl
  · cases p with
    | integer signed width =>
      -- the loops run up to a number that depends on the width
      simp [primitiveDeclarations, integerDeclarations, Function.locals, ownLocals]
    | _ => decide

theorem declares_option {value : Shape} {valuePlace : Place} (hv : placeOf t value = .ok valuePlace) (place : Place) :
    ∃ main, optionDeclarations t (Shape.option value).key value = .ok main ∧
      Declares t (.option value) (main ++ [wholeDecoder (Shape.option value).key place]) := by
  rw [optionDeclarations, hv, ok_bind]
  refine ⟨_, rfl, declares_append place rfl rfl rfl rfl (List.subset_append_of_subset_left _ ?_)⟩
  exact (by decide : ["result", "new_pos", "has_value", "value"] ⊆ ownLocals)

theorem declares_sequence {element : Shape} {elementPlace : Place} (he : placeOf t element = .ok elementPlace)
    (place : Place) :
    ∃ main, sequenceDeclarations t (Shape.sequence element).key (Shape.sequence element).typeName element = .ok main ∧
      Declares t (.sequence element) (main ++ [wholeDecoder (Shape.sequence element).key place]) := by
  rw [sequenceDeclarations, he, ok_bind]
  refine ⟨_, rfl, declares_append place rfl rfl rfl rfl (List.subset_append_of_subset_left _ ?_)⟩
  exact (by decide : ["len", "result", "i", "new_pos", "len", "result", "value", "i"] ⊆ ownLocals)

theorem declares_array {element : Shape} {size : Int} {elementPlace : Place} (he : placeOf t element = .ok elementPlace)
    (place : Place) :
    ∃ main, arrayDeclarations t (Shape.array element size).key element size = .ok main ∧
      Declares t (.array element size) (main ++ [wholeDecoder (Shape.array element size).key place]) := by
  rw [arrayDeclarations, he, ok_bind]
  refine ⟨_, rfl, declares_append place rfl rfl rfl rfl (List.subset_append_of_subset_left _ ?_)⟩
  simp [List.filterMap_cons, Function.locals, ownLocals, samePosition]

/-- Local variables that functions have for themselves, and others. -/
theorem subset_ownLocals {names others all : List String} (own : List String) (h : names = own ++ others)
    (hown : own ⊆ ownLocals) (hothers : others ⊆ all) : names ⊆ ownLocals ++ all := by
  rw [h]
  exact List.append_subset.2 ⟨List.subset_append_of_subset_left all hown, List.subset_append_of_subset_right _ hothers⟩

/-- Statements without local variables of their own. -/
theorem localsOf_map_nil {α : Type} {f : α → Statement} (h : ∀ a, (f a).locals = []) :
    ∀ as : List α, Statement.localsOf (as.map f) = []
  | [] => rfl
  | a :: as => by rw [List.map_cons, localsOf_cons, h, localsOf_map_nil h as, List.append_nil]

/-- A struct's decoder has a local variable for each field. -/
theorem exists_decodeFields : ∀ {fields : List (String × Shape)},
    (∀ child ∈ fields.map Prod.snd, ∃ place, placeOf t child = .ok place) →
    ∃ statements, decodeFields t fields = .ok statements ∧
      Statement.localsOf statements = (fields.map Prod.fst).map (localName t)
  | [], _ => ⟨[], rfl, rfl⟩
  | (name, child) :: rest, h => by
    obtain ⟨place, hplace⟩ := h child List.mem_cons_self
    obtain ⟨statements, hrest, hlocals⟩ := exists_decodeFields fun child hc => h child (List.mem_cons_of_mem _ hc)
    rw [decodeFields, hplace, ok_bind, hrest]
    refine ⟨_, rfl, ?_⟩
    simp only [localsOf_cons, locals_declare, locals_decodeCall, hlocals]
    rfl

theorem declares_struct {name : String} {fields : List (String × Shape)} (hne : fields ≠ [])
    (h : ∀ child ∈ fields.map Prod.snd, ∃ place, placeOf t child = .ok place) (place : Place) :
    ∃ main, structDeclarations t name fields = .ok main ∧
      Declares t (.struct name fields) (main ++ [wholeDecoder name place]) := by
  obtain ⟨decoded, hdecoded, hlocals⟩ := exists_decodeFields h
  cases fields with
  | nil => exact absurd rfl hne
  | cons field rest =>
    rw [structDeclarations, hdecoded, ok_bind]
    refine ⟨_, rfl, declares_append (s := .struct name (field :: rest)) place rfl ?_ rfl rfl ?_⟩
    · simp [Declaration.fieldNames, encoder, decoderAt, Shape.fieldNames, Function.comp_def]
    · have hencoded := localsOf_map_nil (f := fun f : String × Shape => appendEncoded f.2 ("input." ++ f.1))
        (fun _ => rfl) rest
      refine subset_ownLocals ["result", "new_pos"] ?_ (by decide) (List.Subset.refl _)
      simp [List.filterMap_cons, Function.locals, samePosition, hencoded, hlocals, Shape.fieldNames]

theorem declares_simpleEnum (name : String) (members : List String) (place : Place) :
    Declares t (.simpleEnum name members) (simpleEnumDeclarations name members ++ [wholeDecoder name place]) := by
  refine declares_append (s := .simpleEnum name members) place rfl rfl ?_ rfl (List.subset_append_of_subset_left _ ?_)
  · simp [simpleEnumDeclarations, Declaration.memberNames, encoder, decoderAt, Shape.memberNames]
  · exact List.nil_subset _

/-- Each payload has its field. -/
theorem exists_fieldPayloads : ∀ (start : Nat) {variants : List (String × Option String × Option Shape)},
    (∀ v ∈ variants, v.2.1.isSome = v.2.2.isSome) →
    (∀ child ∈ (Shape.payloads variants).map Prod.snd, ∃ place, placeOf t child = .ok place) →
    ∃ payloads, fieldPayloads t (numberedPayloads start variants) = .ok payloads ∧
      payloads.map (·.2.1) = Shape.payloadFields variants ∧
      ∀ payload ∈ payloads, ∃ place, placeOf t payload.2.2 = .ok place
  | _, [], _, _ => ⟨[], rfl, rfl, fun _ h => nomatch h⟩
  | start, (name, none, none) :: rest, hpaired, hplaces => by
    obtain ⟨payloads, hrest, hfields, hall⟩ := exists_fieldPayloads (start + 1)
      (fun v hv => hpaired v (List.mem_cons_of_mem _ hv)) hplaces
    exact ⟨payloads, hrest, hfields, hall⟩
  | start, (name, some field, some child) :: rest, hpaired, hplaces => by
    obtain ⟨place, hplace⟩ := hplaces child List.mem_cons_self
    obtain ⟨payloads, hrest, hfields, hall⟩ := exists_fieldPayloads (start + 1)
      (fun v hv => hpaired v (List.mem_cons_of_mem _ hv)) fun c hc => hplaces c (List.mem_cons_of_mem _ hc)
    refine ⟨(start, field, child) :: payloads, ?_, ?_, ?_⟩
    · rw [numberedPayloads, fieldPayloads, hplace, ok_bind, hrest]
      rfl
    · rw [List.map_cons, hfields]
      rfl
    · exact List.forall_mem_cons.2 ⟨⟨place, hplace⟩, hall⟩
  | _, (name, none, some child) :: rest, hpaired, _ => nomatch hpaired _ List.mem_cons_self
  | _, (name, some field, none) :: rest, hpaired, _ => nomatch hpaired _ List.mem_cons_self

/-- The decoder of an enumeration has a local variable for each payload. -/
theorem exists_decodePayloads : ∀ {payloads : List (Nat × String × Shape)},
    (∀ payload ∈ payloads, ∃ place, placeOf t payload.2.2 = .ok place) →
    ∃ statements, decodePayloads t payloads = .ok statements ∧
      Statement.localsOf statements = (payloads.map (·.2.1)).map (localName t)
  | [], _ => ⟨[], rfl, rfl⟩
  | (i, field, child) :: rest, h => by
    obtain ⟨place, hplace⟩ := h _ List.mem_cons_self
    obtain ⟨statements, hrest, hlocals⟩ := exists_decodePayloads fun payload hp => h payload (List.mem_cons_of_mem _ hp)
    rw [decodePayloads, hplace, ok_bind, hrest]
    refine ⟨_, rfl, ?_⟩
    have hhead : headLocals ("if (choice == " ++ toString i ++ ")") = [] := by
      simp [headLocals, String.toList_append]
    simp only [localsOf_cons, locals_declare, locals_under, hhead, hlocals]
    rfl

theorem declares_taggedEnum {name : String} {variants : List (String × Option String × Option Shape)}
    (hpaired : (Shape.taggedEnum name variants).Paired)
    (h : ∀ child ∈ (Shape.payloads variants).map Prod.snd, ∃ place, placeOf t child = .ok place) (place : Place) :
    ∃ main, taggedEnumDeclarations t name variants = .ok main ∧
      Declares t (.taggedEnum name variants) (main ++ [wholeDecoder name place]) := by
  obtain ⟨payloads, hpayloads, hfields, hall⟩ := exists_fieldPayloads 0 hpaired h
  obtain ⟨decoded, hdecoded, hlocals⟩ := exists_decodePayloads hall
  rw [taggedEnumDeclarations, hpayloads, ok_bind, hdecoded]
  refine ⟨_, rfl, declares_append (s := .taggedEnum name variants) place rfl ?_ rfl rfl ?_⟩
  · simp [Declaration.fieldNames, encoder, decoderAt, Shape.fieldNames, taggedFields, ← hfields, Function.comp_def]
  · have hhead : ∀ i : Nat, headLocals ("if (input.choice == " ++ toString i ++ ")") = [] := by
      simp [headLocals, String.toList_append]
    have hencoded := localsOf_map_nil (f := fun p : Nat × String × Shape =>
      under ("if (input.choice == " ++ toString p.1 ++ ")")
        [give ("abi.encodePacked(result, " ++ encodeCall p.2.2 ("input." ++ p.2.1) ++ ")")])
      (fun p => by rw [locals_under, hhead]; rfl) payloads
    -- the field for the choice has no local variable of its own
    refine subset_ownLocals ["result", "new_pos", "choice"] ?_ (by decide)
      (List.map_subset _ (List.subset_cons_self "choice" (Shape.payloadFields variants)))
    simpa [List.filterMap_cons, Function.locals, newPosition, hlocals, hfields] using hencoded

/-! ## Every shape -/

/-- A shape has its declarations if its children have their places. -/
theorem exists_declared (hsolid : s.isReference = false) (hfields : s.HasFields) (hpaired : s.Paired)
    (hplaces : ∀ child ∈ s.children, ∃ place, placeOf t child = .ok place) :
    ∃ group, declarations t s = .ok group ∧ Declares t s group := by
  obtain ⟨place, hplace⟩ := exists_place (resolve?_of_solid (t := t) hsolid)
  have hmain : ∃ main, mainDeclarations t s = .ok main ∧ Declares t s (main ++ [wholeDecoder s.key place]) := by
    cases s with
    | primitive p => exact ⟨_, rfl, declares_primitive p place⟩
    | reference _ => cases hsolid
    | sequence element =>
      obtain ⟨_, helement⟩ := hplaces element List.mem_cons_self
      exact declares_sequence helement place
    | option value =>
      obtain ⟨_, hvalue⟩ := hplaces value List.mem_cons_self
      exact declares_option hvalue place
    | array element size =>
      obtain ⟨_, helement⟩ := hplaces element List.mem_cons_self
      exact declares_array helement place
    | struct name fields => exact declares_struct hfields.1 hplaces place
    | simpleEnum name members => exact ⟨_, rfl, declares_simpleEnum name members place⟩
    | taggedEnum name variants => exact declares_taggedEnum hpaired hplaces place
  obtain ⟨main, hmain, hdeclares⟩ := hmain
  refine ⟨_, ?_, hdeclares⟩
  rw [declarations, hmain, ok_bind, hplace]
  rfl

end Declarations

end SolidityWire.Solidity
