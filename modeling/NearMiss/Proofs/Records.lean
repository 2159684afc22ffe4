import NearMiss.Proofs.JsonText
import NearMiss.Schema.Record

/-!
# Records and their JSON values

A record is read back from the JSON value that it is written as, in either spelling of its fields.
These values hold no numbers and name no field twice.
-/

namespace NearMiss

open Schema

/-- Items are read again if each of them is. -/
theorem Schema.items_map {α : Type} {read : Json → Checked α} {write : α → Json} {xs : List α}
    (h : ∀ x ∈ xs, read (write x) = .ok x) (place : Nat) :
    items read place (xs.map write) = .ok xs := by
  induction xs generalizing place with
  | nil => rfl
  | cons x xs ih =>
    obtain ⟨hx, hxs⟩ := List.forall_mem_cons.mp h
    rw [List.map_cons, items, hx, ih hxs]
    rfl

/-- A list can be parsed when it is printed, if its items can. -/
theorem Json.Plain.arr_map {α : Type} {write : α → Json} {xs : List α}
    (h : ∀ x ∈ xs, (write x).Plain) : (Json.arr (xs.map write)).Plain :=
  .arr (List.forall_mem_map.mpr h)

namespace Param

/-- A parameter is read from its JSON value. -/
theorem ofJson_toJson (spelling : Spelling) (p : Param) : ofJson (p.toJson spelling) = .ok p := by
  obtain ⟨name, type, isVariadic, isPointer⟩ := p
  cases name <;> cases spelling <;> rfl

/-- A parameter can be parsed when it is printed. -/
theorem toJson_plain (spelling : Spelling) (p : Param) : (p.toJson spelling).Plain := by
  refine .obj ?_ ?_
  · cases spelling <;> exact of_decide_eq_true rfl
  · obtain ⟨name, type, isVariadic, isPointer⟩ := p
    cases name <;> simp [Json.Plain.null, Json.Plain.bool, Json.Plain.str]

end Param

namespace Method

/-- A method is read from its fields, also if others follow them. -/
theorem ofFields_toFields (spelling : Spelling) (m : Method) (more : Fields) :
    ofFields (m.toFields spelling ++ more) = .ok m := by
  have hparams := items_map (fun p (_ : p ∈ m.params) => Param.ofJson_toJson spelling p) 0
  have hreturns := items_map (fun p (_ : p ∈ m.returns) => Param.ofJson_toJson spelling p) 0
  have hread : ofFields (m.toFields spelling ++ more) =
      pure (Method.mk m.signature m.name)
        <*> (items Param.ofJson 0 (m.params.map (Param.toJson spelling))).under (.key "params")
        <*> (items Param.ofJson 0 (m.returns.map (Param.toJson spelling))).under (.key "returns") :=
    rfl
  rw [hread, hparams, hreturns]
  rfl

/-- The fields of a method can be parsed when they are printed. -/
theorem toFields_plain (spelling : Spelling) (m : Method) :
    ∀ field ∈ m.toFields spelling, field.2.Plain := by
  have hparams := Json.Plain.arr_map fun p (_ : p ∈ m.params) => p.toJson_plain spelling
  have hreturns := Json.Plain.arr_map fun p (_ : p ∈ m.returns) => p.toJson_plain spelling
  simp [toFields, Json.Plain.str, hparams, hreturns]

/-- A method is read from its JSON value. -/
theorem ofJson_toJson (spelling : Spelling) (m : Method) : ofJson (m.toJson spelling) = .ok m := by
  have hfields := m.ofFields_toFields spelling []
  rw [List.append_nil] at hfields
  exact hfields

/-- A method can be parsed when it is printed. -/
theorem toJson_plain (spelling : Spelling) (m : Method) : (m.toJson spelling).Plain :=
  .obj (of_decide_eq_true rfl) (m.toFields_plain spelling)

end Method

namespace InterfaceMethod

/-- An interface method is read from its JSON value. -/
theorem ofJson_toJson (spelling : Spelling) (entry : InterfaceMethod) :
    ofJson (entry.toJson spelling) = .ok entry := by
  have hmethod := entry.toMethod.ofFields_toFields spelling
    [("interface", .str entry.interface), ("package", .str entry.package)]
  have hread : ofJson (entry.toJson spelling) =
      InterfaceMethod.mk
        <$> Method.ofFields (entry.toMethod.toFields spelling ++
          [("interface", .str entry.interface), ("package", .str entry.package)])
        <*> pure entry.interface
        <*> pure entry.package :=
    rfl
  rw [hread, hmethod]
  rfl

/-- An interface method can be parsed when it is printed. -/
theorem toJson_plain (spelling : Spelling) (entry : InterfaceMethod) :
    (entry.toJson spelling).Plain := by
  have hmore : ∀ field ∈ [("interface", Json.str entry.interface),
      ("package", Json.str entry.package)], field.2.Plain := by
    simp [Json.Plain.str]
  refine .obj (of_decide_eq_true rfl) ?_
  exact List.forall_mem_append.mpr ⟨entry.toMethod.toFields_plain spelling, hmore⟩

end InterfaceMethod

/-- A source is read from its JSON value. -/
theorem Source.ofJson_toJson (source : Source) : Source.ofJson source.toJson = .ok source :=
  rfl

/-- A source can be parsed when it is printed. -/
theorem Source.toJson_plain (source : Source) : source.toJson.Plain := by
  refine .obj (of_decide_eq_true rfl) ?_
  simp [Json.Plain.str]

namespace Suggestion

/-- A suggestion is read from its JSON value. -/
theorem ofJson_toJson (spelling : Spelling) (s : Suggestion) :
    ofJson (s.toJson spelling) = .ok s := by
  have hsources : items Source.ofJson 0 (s.sources.map Source.toJson) = .ok s.sources :=
    items_map (fun source _ => source.ofJson_toJson) 0
  have hread : ofJson (s.toJson spelling) =
      pure (Suggestion.mk s.targetName)
        <*> (items Source.ofJson 0 (s.sources.map Source.toJson)).under (.key "sources") := by
    cases spelling <;> rfl
  rw [hread, hsources]
  rfl

/-- A suggestion can be parsed when it is printed. -/
theorem toJson_plain (spelling : Spelling) (s : Suggestion) : (s.toJson spelling).Plain := by
  have hsources := Json.Plain.arr_map fun source (_ : source ∈ s.sources) => source.toJson_plain
  refine .obj ?_ ?_
  · cases spelling <;> exact of_decide_eq_true rfl
  · simp [Json.Plain.str, hsources]

end Suggestion

/-- A number is refused exactly if it is below zero. -/
theorem Schema.natFrom_zero (n : Int) :
    natFrom 0 (.int n) = if n < 0 then .refuse (.below 0) else .ok n.toNat :=
  rfl

/-- A number that is not below zero is read. -/
theorem Schema.natFrom_zero_of_nonneg {n : Int} (hn : 0 ≤ n) :
    natFrom 0 (.int n) = .ok n.toNat := by
  rw [natFrom_zero, if_neg (by omega)]

/-- A diagnostic is read from its JSON value. -/
theorem Diagnostic.ofJson_toJson (spelling : Spelling) (d : Diagnostic) :
    ofJson (d.toJson spelling) = .ok d := by
  have hread : ofJson (d.toJson spelling) =
      Diagnostic.mk <$> (natFrom 0 (.int d.line)).under (.key "line")
        <*> (natFrom 0 (.int d.start)).under (.key "start")
        <*> (natFrom 0 (.int d.stop)).under (.key "end")
        <*> pure d.methodName
        <*> (Suggestion.ofJson (d.suggestion.toJson spelling)).under (.key "suggestion")
        <*> pure d.message
        <*> pure d.code :=
    rfl
  have hnumber (n : Nat) : natFrom 0 (.int n) = .ok n :=
    natFrom_zero_of_nonneg (Int.natCast_nonneg n)
  rw [hread, hnumber, hnumber, hnumber, Suggestion.ofJson_toJson]
  rfl

end NearMiss
