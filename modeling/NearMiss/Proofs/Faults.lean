import NearMiss.Corpus
import NearMiss.Proofs.Wording

/-!
# The wording of faults

The faults of checks that are run side by side are the faults of each check, one after the other.
What is said about a fault comes from the names of fields and kinds that a reader asks for and from
the wording of its problems, never from the data. So the report on a corpus has no brackets,
whatever is in the file.
-/

namespace NearMiss.Schema

variable {α β : Type}

/-! ## Faults of combined checks -/

namespace Checked

/-- What is made of a value has the faults of the value. -/
theorem faults_map (f : α → β) (a : Checked α) : (f <$> a).faults = a.faults := by
  cases a <;> rfl

/-- Two readings have their faults one after the other. -/
theorem faults_seq (f : Checked (α → β)) (a : Checked α) :
    (f <*> a).faults = f.faults ++ a.faults := by
  cases f with
  | ok f => cases a <;> rfl
  | refused faults =>
    cases a with
    | ok a => exact (List.append_nil faults).symm
    | refused later => rfl

/-- Faults are found one step further down. -/
theorem faults_under (step : Step) (a : Checked α) :
    (a.under step).faults = a.faults.map fun f => { f with path := step :: f.path } := by
  cases a <;> rfl

end Checked

/-! ## Brackets -/

/-- No bracket is in the wording of a fault, wherever it is found. -/
structure Fault.Unbracketed (f : Fault) : Prop where
  path : ∀ step ∈ f.path, '[' ∉ step.text.toList
  problem : '[' ∉ f.problem.message.toList

/-- No bracket is in the wording of the faults that were found. -/
def Checked.Unbracketed (a : Checked α) : Prop :=
  ∀ f ∈ a.faults, f.Unbracketed

/-- A fault without brackets is worded without any. -/
theorem Fault.Unbracketed.not_mem_message {f : Fault} (h : f.Unbracketed) :
    '[' ∉ f.message.toList := by
  have hpath : '[' ∉ (".".intercalate (f.path.map Step.text)).toList := by
    rw [String.toList_intercalate]
    refine Text.not_mem_intercalate (by decide) ?_
    simpa using h.path
  rw [Fault.message, String.toList_append, String.toList_append, List.mem_append, List.mem_append,
    not_or, not_or]
  exact ⟨⟨hpath, by decide⟩, h.problem⟩

/-- Faults without brackets are described without any. -/
theorem not_mem_describe {faults : List Fault} (h : ∀ f ∈ faults, f.Unbracketed) :
    '[' ∉ (describe faults).toList := by
  rw [describe, String.toList_intercalate]
  refine Text.not_mem_intercalate (by decide) ?_
  simpa using fun f hf => (h f hf).not_mem_message

namespace Checked.Unbracketed

variable {a : Checked α}

/-- A value that is read has no faults. -/
theorem ok (value : α) : (Checked.ok value).Unbracketed :=
  nofun

/-- A refusal is without brackets if its problem is. -/
theorem refuse {problem : Problem} (h : '[' ∉ problem.message.toList) :
    (Checked.refuse problem : Checked α).Unbracketed := by
  intro f hf
  obtain rfl := List.mem_singleton.mp hf
  exact ⟨nofun, h⟩

/-- What is made of a value is refused as the value is. -/
theorem map (h : a.Unbracketed) (f : α → β) : (f <$> a).Unbracketed := by
  rwa [Checked.Unbracketed, Checked.faults_map]

/-- Two readings are refused without brackets if each is. -/
theorem seq {f : Checked (α → β)} (hf : f.Unbracketed) (ha : a.Unbracketed) :
    (f <*> a).Unbracketed := by
  rw [Checked.Unbracketed, Checked.faults_seq]
  exact List.forall_mem_append.mpr ⟨hf, ha⟩

/-- A fault one step further down is without brackets if the step is. -/
theorem under (h : a.Unbracketed) {step : Step} (hstep : '[' ∉ step.text.toList) :
    (a.under step).Unbracketed := by
  rw [Checked.Unbracketed, Checked.faults_under, List.forall_mem_map]
  intro f hf
  exact ⟨List.forall_mem_cons.mpr ⟨hstep, (h f hf).path⟩, (h f hf).problem⟩

end Checked.Unbracketed

/-! ## Readers -/

/-- The reader finds no fault with a bracket in its wording. -/
def Unbracketed (read : Json → Checked α) : Prop :=
  ∀ value, (read value).Unbracketed

/-- Texts are refused without brackets. -/
theorem text_unbracketed : Unbracketed text := by
  have hrefuse : (Checked.refuse .notString : Checked String).Unbracketed := .refuse (by decide)
  intro value
  cases value with
  | str s => exact .ok s
  | _ => exact hrefuse

/-- Marks are refused without brackets. -/
theorem bool_unbracketed : Unbracketed bool := by
  have hnot : (Checked.refuse .notBool : Checked Bool).Unbracketed := .refuse (by decide)
  have hunclear : (Checked.refuse .unclearBool : Checked Bool).Unbracketed := .refuse (by decide)
  have hrefuse : ∀ fits : Bool,
      (Checked.refuse (if fits then .unclearBool else .notBool) : Checked Bool).Unbracketed := by
    intro fits
    cases fits with
    | false => exact hnot
    | true => exact hunclear
  intro value
  unfold bool
  split
  · exact .ok _
  · next n =>
    split
    · exact .ok _
    · exact hrefuse (fitsWord n)
  · split
    · exact hnot
    · next n _ =>
      split
      · exact .ok _
      · exact hrefuse (fitsInside n)
  · split
    · exact .ok _
    · exact hunclear
  · exact hnot

/-- What may be missing is refused without brackets. -/
theorem Unbracketed.nullable {read : Json → Checked α} (h : Unbracketed read) :
    Unbracketed (nullable read) := by
  intro value
  unfold Schema.nullable
  split
  · exact .ok _
  · exact (h value).map _

/-- A list is refused without brackets. -/
theorem Unbracketed.list {read : Json → Checked α} (h : Unbracketed read) :
    Unbracketed (list read) := by
  have hitems : ∀ (values : List Json) (place : Nat), (items read place values).Unbracketed := by
    intro values
    induction values with
    | nil => exact fun _ => .ok _
    | cons value later ih =>
      intro place
      have hplace : '[' ∉ (Step.index place).text.toList := Text.bracket_not_mem_toString place
      have hvalue : ((read value).under (.index place)).Unbracketed := (h value).under hplace
      exact (hvalue.map List.cons).seq (ih (place + 1))
  have hrefuse : (Checked.refuse .notList : Checked (List α)).Unbracketed := .refuse (by decide)
  intro value
  cases value with
  | arr values => exact hitems values 0
  | _ => exact hrefuse

/-- A record is refused without brackets if its fields are. -/
theorem Unbracketed.record {kind : String} (hkind : '[' ∉ kind.toList)
    {read : Fields → Checked α} (h : ∀ fields, (read fields).Unbracketed) :
    Unbracketed (record kind read) := by
  have hmessage : '[' ∉ (Problem.notRecord kind).message.toList := by
    have hwording : (Problem.notRecord kind).message =
        "Input should be a valid dictionary or instance of " ++ kind := rfl
    rw [hwording, String.toList_append, List.mem_append, not_or]
    exact ⟨by decide, hkind⟩
  have hrefuse : (Checked.refuse (.notRecord kind) : Checked α).Unbracketed := .refuse hmessage
  intro value
  cases value with
  | obj fields => exact h fields
  | _ => exact hrefuse

/-- A field is found under one of its names. -/
theorem mem_of_find? {fields : Fields} {names : List String} {found : String} {value : Json}
    (h : find? fields names = some (found, value)) : found ∈ names := by
  induction names with
  | nil => cases h
  | cons name others ih =>
    rw [find?] at h
    split at h
    · cases h
      exact List.mem_cons_self
    · exact List.mem_cons_of_mem _ (ih h)

/-- A field that has to be there is refused without brackets. -/
theorem Unbracketed.required {read : Json → Checked α} (h : Unbracketed read) (fields : Fields)
    {name : String} {others : List String} (hnames : ∀ n ∈ name :: others, '[' ∉ n.toList) :
    (required fields name others read).Unbracketed := by
  unfold Schema.required
  split
  · next found value hfound => exact (h value).under (hnames found (mem_of_find? hfound))
  · intro f hf
    obtain rfl := List.mem_singleton.mp hf
    have hmessage : '[' ∉ Problem.missing.message.toList := by decide
    exact ⟨List.forall_mem_singleton.mpr (hnames name List.mem_cons_self), hmessage⟩

/-- A field with a default is refused without brackets. -/
theorem Unbracketed.optional {read : Json → Checked α} (h : Unbracketed read) (fields : Fields)
    {name : String} {others : List String} (hnames : ∀ n ∈ name :: others, '[' ∉ n.toList)
    (default : α) : (optional fields name others default read).Unbracketed := by
  unfold Schema.optional
  split
  · next found value hfound => exact (h value).under (hnames found (mem_of_find? hfound))
  · exact .ok default

end NearMiss.Schema

namespace NearMiss

open Schema

/-! ## Corpus entries -/

/-- A parameter is refused without brackets. -/
theorem Param.ofJson_unbracketed : Unbracketed Param.ofJson := by
  refine .record (by decide) fun fields => ?_
  have hname : (optional fields "name" [] none (nullable text)).Unbracketed :=
    text_unbracketed.nullable.optional fields (by decide) none
  have htype : (required fields "type" [] text).Unbracketed :=
    text_unbracketed.required fields (by decide)
  have hvariadic : (optional fields "isVariadic" ["is_variadic"] false bool).Unbracketed :=
    bool_unbracketed.optional fields (by decide) false
  have hpointer : (optional fields "isPointer" ["is_pointer"] false bool).Unbracketed :=
    bool_unbracketed.optional fields (by decide) false
  exact (((hname.map Param.mk).seq htype).seq hvariadic).seq hpointer

/-- The fields of a method are refused without brackets. -/
theorem Method.ofFields_unbracketed (fields : Fields) : (Method.ofFields fields).Unbracketed := by
  have htext : ∀ name : String, '[' ∉ name.toList →
      (required fields name [] text).Unbracketed := by
    intro name hname
    exact text_unbracketed.required fields (by simpa using hname)
  have hlist : ∀ name : String, '[' ∉ name.toList →
      (optional fields name [] [] (list Param.ofJson)).Unbracketed := by
    intro name hname
    exact Param.ofJson_unbracketed.list.optional fields (by simpa using hname) []
  have hsignature := htext "signature" (by decide)
  have hname := htext "name" (by decide)
  have hparams := hlist "params" (by decide)
  have hreturns := hlist "returns" (by decide)
  exact (((hsignature.map Method.mk).seq hname).seq hparams).seq hreturns

/-- An interface method is refused without brackets. -/
theorem InterfaceMethod.ofJson_unbracketed : Unbracketed InterfaceMethod.ofJson := by
  refine .record (by decide) fun fields => ?_
  have hmethod := Method.ofFields_unbracketed fields
  have hinterface : (required fields "interface" [] text).Unbracketed :=
    text_unbracketed.required fields (by decide)
  have hpackage : (required fields "package" [] text).Unbracketed :=
    text_unbracketed.required fields (by decide)
  exact ((hmethod.map InterfaceMethod.mk).seq hinterface).seq hpackage

/-- The report on a JSON value that is no corpus has no brackets. -/
theorem Corpus.not_mem_describe_ofJson {value : Json} {faults : List Fault}
    (h : Corpus.ofJson value = .refused faults) : '[' ∉ (describe faults).toList := by
  have hcorpus : (Corpus.ofJson value).Unbracketed := InterfaceMethod.ofJson_unbracketed.list value
  rw [h] at hcorpus
  exact not_mem_describe hcorpus

end NearMiss
