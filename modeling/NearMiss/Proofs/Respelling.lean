import NearMiss.Proofs.Records
import Mathlib.Logic.Relation

/-!
# Records in other spellings

A record can be written in many ways. Each field that has two spellings may have either of them at
each place where it occurs, fields that the record does not have may stand between the others, and
beside the preferred spelling of a field the other one may hold anything. All of these ways lead
from one to the other by small edits, at any depth of a record. An edit changes nothing in what is
read, so a record is read back from all of them.
-/

namespace NearMiss

open Schema

/-! ## Kinds of records -/

/-- The kinds of records that are kept as JSON objects. -/
inductive RecordKind where
  | param
  | method
  | entry
  | source
  | suggestion
  | diagnostic
  deriving DecidableEq, Repr

/-- What stands in a field of a record. -/
inductive Part where
  /-- A value without records in it. -/
  | plain
  /-- A record. -/
  | record (kind : RecordKind)
  /-- A list of records. -/
  | list (kind : RecordKind)
  deriving DecidableEq, Repr

/-- A field that records of some kind have. -/
structure Slot where
  /-- Its spellings, the preferred one first. -/
  names : List String
  /-- What stands in it. -/
  part : Part
  deriving DecidableEq, Repr

namespace RecordKind

/-- The records of a kind. -/
def Value : RecordKind → Type
  | .param => Param
  | .method => Method
  | .entry => InterfaceMethod
  | .source => Source
  | .suggestion => Suggestion
  | .diagnostic => Diagnostic

/-- Reads a record. -/
def read : (kind : RecordKind) → Json → Checked kind.Value
  | .param => Param.ofJson
  | .method => Method.ofJson
  | .entry => InterfaceMethod.ofJson
  | .source => Source.ofJson
  | .suggestion => Suggestion.ofJson
  | .diagnostic => Diagnostic.ofJson

/-- Writes a record. -/
def write (spelling : Spelling) : (kind : RecordKind) → kind.Value → Json
  | .param => Param.toJson spelling
  | .method => Method.toJson spelling
  | .entry => InterfaceMethod.toJson spelling
  | .source => Source.toJson
  | .suggestion => Suggestion.toJson spelling
  | .diagnostic => Diagnostic.toJson spelling

/-- The fields of a method. -/
def methodSlots : List Slot :=
  [⟨["signature"], .plain⟩, ⟨["name"], .plain⟩, ⟨["params"], .list .param⟩,
    ⟨["returns"], .list .param⟩]

/-- The fields that records of a kind have. -/
def slots : RecordKind → List Slot
  | .param =>
    [⟨["name"], .plain⟩, ⟨["type"], .plain⟩, ⟨["isVariadic", "is_variadic"], .plain⟩,
      ⟨["isPointer", "is_pointer"], .plain⟩]
  | .method => methodSlots
  | .entry => methodSlots ++ [⟨["interface"], .plain⟩, ⟨["package"], .plain⟩]
  | .source => [⟨["package"], .plain⟩, ⟨["interface"], .plain⟩]
  | .suggestion => [⟨["targetName", "target_name"], .plain⟩, ⟨["sources"], .list .source⟩]
  | .diagnostic =>
    [⟨["line"], .plain⟩, ⟨["start"], .plain⟩, ⟨["end"], .plain⟩, ⟨["method_name"], .plain⟩,
      ⟨["suggestion"], .record .suggestion⟩, ⟨["message"], .plain⟩, ⟨["code"], .plain⟩]

/-- No spelling of a field is listed twice. -/
theorem nodup_names (kind : RecordKind) : ∀ slot ∈ kind.slots, slot.names.Nodup := by
  cases kind <;> decide

/-- No name spells two fields. -/
theorem eq_of_mem_names (kind : RecordKind) : ∀ slot ∈ kind.slots, ∀ other ∈ kind.slots,
    ∀ name ∈ slot.names, name ∈ other.names → other = slot := by
  cases kind <;> decide

end RecordKind

/-- One change to a record of a kind that leaves what is read. -/
inductive Edit : RecordKind → Json → Json → Prop
  /-- A field that is given once is given under another of its spellings. -/
  | respell {kind : RecordKind} (slot : Slot) (hslot : slot ∈ kind.slots) {old new : String}
      (hold : old ∈ slot.names) (hnew : new ∈ slot.names) (before after : Fields)
      (halone : ∀ field ∈ before ++ after, field.1 ∉ slot.names) (value : Json) :
      Edit kind (.obj (before ++ (old, value) :: after)) (.obj (before ++ (new, value) :: after))
  /-- A field that such records do not have is added anywhere. -/
  | unknown {kind : RecordKind} {name : String} (hname : ∀ slot ∈ kind.slots, name ∉ slot.names)
      (before after : Fields) (value : Json) :
      Edit kind (.obj (before ++ after)) (.obj (before ++ (name, value) :: after))
  /-- Another spelling is added anywhere, with any value, to a field that is given under the
  preferred one. -/
  | shadow {kind : RecordKind} (slot : Slot) (hslot : slot ∈ kind.slots) {preferred : String}
      {others : List String} (hnames : slot.names = preferred :: others) {name : String}
      (hname : name ∈ others) (before after : Fields)
      (hgiven : preferred ∈ (before ++ after).map Prod.fst) (value : Json) :
      Edit kind (.obj (before ++ after)) (.obj (before ++ (name, value) :: after))
  /-- A record in a field is edited. -/
  | inside {kind inner : RecordKind} (slot : Slot) (hslot : slot ∈ kind.slots)
      (hpart : slot.part = .record inner) {name : String} (hname : name ∈ slot.names)
      (before after : Fields) {old new : Json} (hedit : Edit inner old new) :
      Edit kind (.obj (before ++ (name, old) :: after)) (.obj (before ++ (name, new) :: after))
  /-- A record in a list of records is edited. -/
  | item {kind inner : RecordKind} (slot : Slot) (hslot : slot ∈ kind.slots)
      (hpart : slot.part = .list inner) {name : String} (hname : name ∈ slot.names)
      (before after : Fields) (front back : List Json) {old new : Json}
      (hedit : Edit inner old new) :
      Edit kind (.obj (before ++ (name, .arr (front ++ old :: back)) :: after))
        (.obj (before ++ (name, .arr (front ++ new :: back)) :: after))

/-! ## Fields that are found -/

namespace Schema

/-- The value of a field: what stands under the first of its spellings that is there. -/
def value? (fields : Fields) (names : List String) : Option Json :=
  names.findSome? fun name => fields.lookup name

/-- A field is found with its value. -/
theorem map_snd_find? (fields : Fields) (names : List String) :
    (find? fields names).map Prod.snd = value? fields names := by
  induction names with
  | nil => rfl
  | cons name others ih =>
    rw [find?, value?, List.findSome?_cons]
    cases fields.lookup name with
    | none => exact ih
    | some value => rfl

/-- Fields with the same values under some names have the same value under these. -/
theorem value?_congr {fields fields' : Fields} {names : List String}
    (h : ∀ name ∈ names, fields.lookup name = fields'.lookup name) :
    value? fields names = value? fields' names := by
  induction names with
  | nil => rfl
  | cons name others ih =>
    obtain ⟨hname, hothers⟩ := List.forall_mem_cons.mp h
    have hlater := ih hothers
    unfold value? at hlater ⊢
    rw [List.findSome?_cons, List.findSome?_cons, hname, hlater]

/-- A field under another name makes no difference. -/
theorem lookup_of_ne {name other : String} (h : other ≠ name) (before after : Fields)
    (value : Json) :
    (before ++ (name, value) :: after).lookup other = (before ++ after).lookup other := by
  rw [List.lookup_append, List.lookup_append, List.lookup_cons, beq_eq_false_iff_ne.mpr h]

/-- An added field leaves those that have other names. -/
theorem value?_insert {name : String} {names : List String} (h : name ∉ names)
    (before after : Fields) (value : Json) :
    value? (before ++ (name, value) :: after) names = value? (before ++ after) names := by
  apply value?_congr
  intro other hother
  have hne : other ≠ name := by
    rintro rfl
    exact h hother
  exact lookup_of_ne hne before after value

/-- A field that is given once has its value, under whichever spelling it is given. -/
theorem value?_alone {name : String} {names : List String} {before after : Fields}
    (hname : name ∈ names) (halone : ∀ field ∈ before ++ after, field.1 ∉ names) (value : Json) :
    value? (before ++ (name, value) :: after) names = some value := by
  have hnone : ∀ other ∈ names, (before ++ after).lookup other = none := by
    intro other hother
    apply List.lookup_eq_none_iff.mpr
    intro field hfield
    have hne : other ≠ field.1 := by
      rintro rfl
      exact halone field hfield hother
    exact bne_iff_ne.mpr hne
  have hhere : (before ++ (name, value) :: after).lookup name = some value := by
    have hbefore := hnone name hname
    rw [List.lookup_append, Option.or_eq_none_iff] at hbefore
    rw [List.lookup_append, hbefore.1, List.lookup_cons, beq_self_eq_true]
    rfl
  clear halone
  induction names with
  | nil => cases hname
  | cons first others ih =>
    rw [value?, List.findSome?_cons]
    by_cases hfirst : first = name
    · rw [hfirst, hhere]
    · have hothers := (List.mem_cons.mp hname).resolve_left (Ne.symm hfirst)
      rw [lookup_of_ne hfirst, hnone first List.mem_cons_self]
      exact ih hothers fun other hother => hnone other (List.mem_cons_of_mem first hother)

/-- Of a field whose value is changed, the new value is found where the old one was. -/
theorem value?_replace (name : String) (names : List String) (before after : Fields)
    (old new : Json) :
    value? (before ++ (name, old) :: after) names =
        value? (before ++ (name, new) :: after) names ∨
      name ∈ names ∧ value? (before ++ (name, old) :: after) names = some old ∧
        value? (before ++ (name, new) :: after) names = some new := by
  induction names with
  | nil => exact .inl rfl
  | cons first others ih =>
    simp only [value?, List.findSome?_cons]
    by_cases hfirst : first = name
    · subst hfirst
      cases hbefore : before.lookup first with
      | none => simp [List.lookup_append, hbefore]
      | some value => simp [List.lookup_append, hbefore]
    · rw [lookup_of_ne hfirst, lookup_of_ne hfirst]
      cases (before ++ after).lookup first with
      | none =>
        rcases ih with hsame | ⟨hname, hold, hnew⟩
        · exact .inl hsame
        · exact .inr ⟨List.mem_cons_of_mem first hname, hold, hnew⟩
      | some value => exact .inl rfl

/-! ## Checks that pass alike -/

/-- If the one passes, the other passes with the same value. -/
def Checked.Follows {α : Type} (a b : Checked α) : Prop :=
  ∀ value, a = .ok value → b = .ok value

namespace Checked

variable {α β : Type}

/-- A reading follows itself. -/
theorem Follows.refl (a : Checked α) : Follows a a :=
  fun _ => id

/-- Every reading follows a refusal. -/
theorem follows_refused (faults : List Fault) (b : Checked α) : Follows (.refused faults) b :=
  nofun

/-- What is made of two readings follows as they do. -/
theorem Follows.map {a b : Checked α} (h : Follows a b) (f : α → β) :
    Follows (f <$> a) (f <$> b) := by
  cases a with
  | ok value =>
    rw [h value rfl]
    exact .refl _
  | refused faults => exact follows_refused faults _

/-- Readings follow each other part by part. -/
theorem Follows.seq {f g : Checked (α → β)} {a b : Checked α} (hf : Follows f g)
    (ha : Follows a b) : Follows (f <*> a) (g <*> b) := by
  cases f with
  | ok apply =>
    cases a with
    | ok value =>
      rw [hf apply rfl, ha value rfl]
      exact .refl _
    | refused faults => exact follows_refused faults _
  | refused faults =>
    cases a with
    | ok value => exact follows_refused faults _
    | refused later => exact follows_refused (faults ++ later) _

/-- Where a value is found plays no part in whether it passes. -/
theorem Follows.under {a b : Checked α} (h : Follows a b) (step other : Step) :
    Follows (a.under step) (b.under other) := by
  cases a with
  | ok value =>
    rw [h value rfl]
    exact .refl _
  | refused faults => exact follows_refused _ _

end Checked

open Checked

variable {α : Type} (read : Json → Checked α) {fields fields' : Fields} {name : String}
  {others : List String}

/-- What the reader takes the one value for, it takes the other for. -/
def Alike (old new : Json) : Prop :=
  Follows (read old) (read new)

variable {read} in
/-- Fields with values that are read alike are found with values that are read alike. -/
theorem find?_alike {names : List String}
    (h : Option.Rel (Alike read) (value? fields names) (value? fields' names)) :
    Option.Rel (fun found found' => Alike read found.2 found'.2) (find? fields names)
      (find? fields' names) := by
  rw [← map_snd_find?, ← map_snd_find?] at h
  cases hfound : find? fields names with
  | none =>
    cases hfound' : find? fields' names with
    | none => exact .none
    | some found' =>
      rw [hfound, hfound'] at h
      cases h
  | some found =>
    cases hfound' : find? fields' names with
    | none =>
      rw [hfound, hfound'] at h
      cases h
    | some found' =>
      rw [hfound, hfound'] at h
      cases h with
      | some halike => exact .some halike

/-- A field that has to be there is read alike. -/
theorem required_follows
    (h : Option.Rel (Alike read) (value? fields (name :: others))
      (value? fields' (name :: others))) :
    Follows (required fields name others read) (required fields' name others read) := by
  have hfound := find?_alike h
  unfold required
  generalize find? fields (name :: others) = found at hfound ⊢
  generalize find? fields' (name :: others) = found' at hfound ⊢
  cases hfound with
  | none => exact .refl _
  | @some found found' halike => exact Follows.under halike (.key found.1) (.key found'.1)

/-- A field with a default is read alike. -/
theorem optional_follows (default : α)
    (h : Option.Rel (Alike read) (value? fields (name :: others))
      (value? fields' (name :: others))) :
    Follows (optional fields name others default read)
      (optional fields' name others default read) := by
  have hfound := find?_alike h
  unfold optional
  generalize find? fields (name :: others) = found at hfound ⊢
  generalize find? fields' (name :: others) = found' at hfound ⊢
  cases hfound with
  | none => exact .refl _
  | @some found found' halike => exact Follows.under halike (.key found.1) (.key found'.1)

variable {read} in
/-- Items are read alike if one of them gives way to one that is read alike. -/
theorem items_follows {old new : Json} (h : Alike read old new) (front back : List Json)
    (place : Nat) :
    Follows (items read place (front ++ old :: back))
      (items read place (front ++ new :: back)) := by
  induction front generalizing place with
  | nil => exact ((Follows.under h (.index place) (.index place)).map List.cons).seq (.refl _)
  | cons first front ih =>
    exact (Follows.refl (List.cons <$> (read first).under (.index place))).seq (ih (place + 1))

end Schema

/-! ## Edits -/

open Schema Checked

/-- What stands in a field is read from the one value as from the other. -/
def Part.Keeps : Part → Json → Json → Prop
  | .plain => Eq
  | .record kind => Alike kind.read
  | .list kind => Alike (Schema.list kind.read)

/-- A part keeps a value that is not changed. -/
theorem Part.Keeps.refl (part : Part) (value : Json) : part.Keeps value value := by
  cases part with
  | plain => rfl
  | record kind => exact Follows.refl _
  | list kind => exact Follows.refl _

/-- What stands in a plain field is the same for every reader. -/
theorem plain_alike {α : Type} (read : Json → Checked α) {a b : Option Json}
    (h : Option.Rel Part.plain.Keeps a b) : Option.Rel (Alike read) a b := by
  cases h with
  | none => exact .none
  | some heq =>
    obtain rfl := heq
    exact .some (Follows.refl _)

/-- Every field of the record keeps what stands in it. -/
def Kept (kind : RecordKind) (fields fields' : Fields) : Prop :=
  ∀ slot ∈ kind.slots,
    Option.Rel slot.part.Keeps (value? fields slot.names) (value? fields' slot.names)

/-- The same value is kept, also if there is none. -/
theorem keeps_of_eq {part : Part} {a b : Option Json} (h : a = b) : Option.Rel part.Keeps a b := by
  subst h
  cases a with
  | none => exact .none
  | some value => exact .some (.refl part value)

section Records

variable {fields fields' : Fields}

/-- A text is kept. -/
theorem text_follows {name : String} {others : List String}
    (h : Option.Rel Part.plain.Keeps (value? fields (name :: others))
      (value? fields' (name :: others))) :
    Follows (required fields name others text) (required fields' name others text) :=
  required_follows text (plain_alike text h)

/-- An edited parameter is read as it was. -/
theorem Param.ofJson_follows (h : Kept .param fields fields') :
    Follows (Param.ofJson (.obj fields)) (Param.ofJson (.obj fields')) := by
  have hname := optional_follows (nullable text) none
    (plain_alike (nullable text) (h ⟨["name"], .plain⟩ (by decide)))
  have htype := text_follows (h ⟨["type"], .plain⟩ (by decide))
  have hvariadic := optional_follows bool false
    (plain_alike bool (h ⟨["isVariadic", "is_variadic"], .plain⟩ (by decide)))
  have hpointer := optional_follows bool false
    (plain_alike bool (h ⟨["isPointer", "is_pointer"], .plain⟩ (by decide)))
  exact (((hname.map Param.mk).seq htype).seq hvariadic).seq hpointer

/-- The edited fields of a method are read as they were. -/
theorem Method.ofFields_follows (h : ∀ slot ∈ RecordKind.methodSlots,
    Option.Rel slot.part.Keeps (value? fields slot.names) (value? fields' slot.names)) :
    Follows (Method.ofFields fields) (Method.ofFields fields') := by
  have hsignature := text_follows (h ⟨["signature"], .plain⟩ (by decide))
  have hname := text_follows (h ⟨["name"], .plain⟩ (by decide))
  have hparams := optional_follows (list Param.ofJson) []
    (h ⟨["params"], .list .param⟩ (by decide))
  have hreturns := optional_follows (list Param.ofJson) []
    (h ⟨["returns"], .list .param⟩ (by decide))
  exact (((hsignature.map Method.mk).seq hname).seq hparams).seq hreturns

/-- An edited interface method is read as it was. -/
theorem InterfaceMethod.ofJson_follows (h : Kept .entry fields fields') :
    Follows (InterfaceMethod.ofJson (.obj fields)) (InterfaceMethod.ofJson (.obj fields')) := by
  have hmethod := Method.ofFields_follows fun slot hslot => h slot (List.mem_append_left _ hslot)
  have hinterface := text_follows (h ⟨["interface"], .plain⟩ (by decide))
  have hpackage := text_follows (h ⟨["package"], .plain⟩ (by decide))
  exact ((hmethod.map InterfaceMethod.mk).seq hinterface).seq hpackage

/-- An edited source is read as it was. -/
theorem Source.ofJson_follows (h : Kept .source fields fields') :
    Follows (Source.ofJson (.obj fields)) (Source.ofJson (.obj fields')) := by
  have hpackage := text_follows (h ⟨["package"], .plain⟩ (by decide))
  have hinterface := text_follows (h ⟨["interface"], .plain⟩ (by decide))
  exact (hpackage.map Source.mk).seq hinterface

/-- An edited suggestion is read as it was. -/
theorem Suggestion.ofJson_follows (h : Kept .suggestion fields fields') :
    Follows (Suggestion.ofJson (.obj fields)) (Suggestion.ofJson (.obj fields')) := by
  have htarget := text_follows (h ⟨["targetName", "target_name"], .plain⟩ (by decide))
  have hsources := optional_follows (list Source.ofJson) []
    (h ⟨["sources"], .list .source⟩ (by decide))
  exact (htarget.map Suggestion.mk).seq hsources

/-- An edited diagnostic is read as it was. -/
theorem Diagnostic.ofJson_follows (h : Kept .diagnostic fields fields') :
    Follows (Diagnostic.ofJson (.obj fields)) (Diagnostic.ofJson (.obj fields')) := by
  have hnumber (name : String) (hname : ⟨[name], .plain⟩ ∈ RecordKind.diagnostic.slots) :=
    required_follows (natFrom 0) (plain_alike (natFrom 0) (h ⟨[name], .plain⟩ hname))
  have hline := hnumber "line" (by decide)
  have hstart := hnumber "start" (by decide)
  have hend := hnumber "end" (by decide)
  have hmethodName := text_follows (h ⟨["method_name"], .plain⟩ (by decide))
  have hsuggestion := required_follows Suggestion.ofJson
    (h ⟨["suggestion"], .record .suggestion⟩ (by decide))
  have hmessage := text_follows (h ⟨["message"], .plain⟩ (by decide))
  have hcode := optional_follows text Diagnostic.possibleRename
    (plain_alike text (h ⟨["code"], .plain⟩ (by decide)))
  have hplace := ((hline.map Diagnostic.mk).seq hstart).seq hend
  exact (((hplace.seq hmethodName).seq hsuggestion).seq hmessage).seq hcode

end Records

/-- A record whose fields keep what stands in them is read as before. -/
theorem Kept.follows {kind : RecordKind} {fields fields' : Fields} (h : Kept kind fields fields') :
    Follows (kind.read (.obj fields)) (kind.read (.obj fields')) := by
  cases kind with
  | param => exact Param.ofJson_follows h
  | method => exact Method.ofFields_follows h
  | entry => exact InterfaceMethod.ofJson_follows h
  | source => exact Source.ofJson_follows h
  | suggestion => exact Suggestion.ofJson_follows h
  | diagnostic => exact Diagnostic.ofJson_follows h

/-- A new spelling of a field leaves the others, and the field is found under it. -/
theorem kept_respell {kind : RecordKind} {slot : Slot} (hslot : slot ∈ kind.slots)
    {old new : String} (hold : old ∈ slot.names) (hnew : new ∈ slot.names)
    {before after : Fields} (halone : ∀ field ∈ before ++ after, field.1 ∉ slot.names)
    (value : Json) :
    Kept kind (before ++ (old, value) :: after) (before ++ (new, value) :: after) := by
  intro other hother
  apply keeps_of_eq
  by_cases hsame : other = slot
  · subst hsame
    rw [value?_alone hold halone, value?_alone hnew halone]
  · have hapart : ∀ name ∈ slot.names, name ∉ other.names := by
      intro name hname hmem
      exact hsame (kind.eq_of_mem_names slot hslot other hother name hname hmem)
    rw [value?_insert (hapart old hold), value?_insert (hapart new hnew)]

/-- A spelling beside the preferred one is not looked at. -/
theorem kept_shadow {kind : RecordKind} {slot : Slot} (hslot : slot ∈ kind.slots)
    {preferred name : String} {others : List String} (hnames : slot.names = preferred :: others)
    (hname : name ∈ others) {before after : Fields}
    (hgiven : preferred ∈ (before ++ after).map Prod.fst) (value : Json) :
    Kept kind (before ++ after) (before ++ (name, value) :: after) := by
  intro other hother
  apply keeps_of_eq
  by_cases hsame : other = slot
  · subst hsame
    have hne : preferred ≠ name := by
      have hnodup := kind.nodup_names other hother
      rw [hnames] at hnodup
      rintro rfl
      exact (List.nodup_cons.mp hnodup).1 hname
    have hfound : ∃ found, (before ++ after).lookup preferred = some found := by
      by_contra hnone
      obtain ⟨field, hfield, rfl⟩ := List.mem_map.mp hgiven
      have hmissing := List.lookup_eq_none_iff.mp
        (Option.eq_none_iff_forall_ne_some.mpr (not_exists.mp hnone)) field hfield
      simp at hmissing
    obtain ⟨found, hfound⟩ := hfound
    rw [hnames]
    simp only [value?, List.findSome?_cons, lookup_of_ne hne, hfound]
  · have hmem : name ∈ slot.names := by
      rw [hnames]
      exact List.mem_cons_of_mem preferred hname
    have hapart : name ∉ other.names := fun hmem' =>
      hsame (kind.eq_of_mem_names slot hslot other hother name hmem hmem')
    rw [value?_insert hapart]

/-- A new value of a field leaves the others, and is read as the old one if the field keeps it. -/
theorem kept_replace {kind : RecordKind} {slot : Slot} (hslot : slot ∈ kind.slots)
    {name : String} (hname : name ∈ slot.names) {old new : Json} (hkeeps : slot.part.Keeps old new)
    (before after : Fields) :
    Kept kind (before ++ (name, old) :: after) (before ++ (name, new) :: after) := by
  intro other hother
  rcases value?_replace name other.names before after old new with hsame | ⟨hmem, hold, hnew⟩
  · exact keeps_of_eq hsame
  · obtain rfl := kind.eq_of_mem_names slot hslot other hother name hname hmem
    rw [hold, hnew]
    exact .some hkeeps

/-- One edit leaves what is read, also deep inside a record. -/
theorem Edit.follows {kind : RecordKind} {old new : Json} (h : Edit kind old new) :
    Follows (kind.read old) (kind.read new) := by
  induction h with
  | respell slot hslot hold hnew before after halone value =>
    exact (kept_respell hslot hold hnew halone value).follows
  | unknown hname before after value =>
    apply Kept.follows
    intro slot hslot
    exact keeps_of_eq (value?_insert (hname slot hslot) before after value).symm
  | shadow slot hslot hnames hname before after hgiven value =>
    exact (kept_shadow hslot hnames hname hgiven value).follows
  | @inside kind inner slot hslot hpart name hname before after old new hedit ih =>
    have hkeeps : slot.part.Keeps old new := by
      rw [hpart]
      exact ih
    exact (kept_replace hslot hname hkeeps before after).follows
  | @item kind inner slot hslot hpart name hname before after front back old new hedit ih =>
    have hkeeps : slot.part.Keeps (.arr (front ++ old :: back)) (.arr (front ++ new :: back)) := by
      rw [hpart]
      exact items_follows ih front back 0
    exact (kept_replace hslot hname hkeeps before after).follows

/-- A record is read back from the value that it is written as. -/
theorem RecordKind.read_write (spelling : Spelling) (kind : RecordKind) (record : kind.Value) :
    kind.read (kind.write spelling record) = .ok record := by
  cases kind with
  | param => exact Param.ofJson_toJson spelling record
  | method => exact Method.ofJson_toJson spelling record
  | entry => exact InterfaceMethod.ofJson_toJson spelling record
  | source => exact Source.ofJson_toJson record
  | suggestion => exact Suggestion.ofJson_toJson spelling record
  | diagnostic => exact Diagnostic.ofJson_toJson spelling record

/-- A record of any kind is read back from the value that it is written as in either spelling, and
from all that edits make of that value: with a spelling of its own at each place where a field has
two, with fields that are not known, and with anything under the other spelling of a field that is
given under the preferred one. -/
theorem RecordKind.read_edited (kind : RecordKind) (record : kind.Value) (spelling : Spelling) :
    kind.read (kind.write spelling record) = .ok record ∧
      ∀ value, Relation.ReflTransGen (Edit kind) (kind.write spelling record) value →
        kind.read value = .ok record := by
  refine ⟨kind.read_write spelling record, fun value hedits => ?_⟩
  induction hedits with
  | refl => exact kind.read_write spelling record
  | tail _ hedit ih => exact hedit.follows record ih

/-- A suggestion with two interfaces behind it. -/
def readSuggestion : Suggestion :=
  ⟨"Read", [⟨"io", "Reader"⟩, ⟨"bufio", "Source"⟩]⟩

/-- The suggestion under the preferred spelling of its name, with something else under the other
one, and with a field that is not known in one of its interfaces. -/
def readSuggestionEdited : Json :=
  .obj [("targetName", .str "Read"), ("target_name", .arr [.null]),
    ("sources", .arr [.obj [("package", .str "io"), ("interface", .str "Reader")],
      .obj [("package", .str "bufio"), ("line", .int 7), ("interface", .str "Source")]])]

/-- The suggestion is edited in several steps. -/
theorem readSuggestion_edits :
    Relation.ReflTransGen (Edit .suggestion) (readSuggestion.toJson .snake)
      readSuggestionEdited := by
  have hrespell : Edit .suggestion (readSuggestion.toJson .snake)
      (readSuggestion.toJson .camel) :=
    .respell ⟨["targetName", "target_name"], .plain⟩ (by decide) (by decide) (by decide) []
      [("sources", .arr (readSuggestion.sources.map Source.toJson))] (by decide) (.str "Read")
  have hshadow : Edit .suggestion (readSuggestion.toJson .camel)
      (.obj [("targetName", .str "Read"), ("target_name", .arr [.null]),
        ("sources", .arr (readSuggestion.sources.map Source.toJson))]) :=
    .shadow ⟨["targetName", "target_name"], .plain⟩ (by decide) rfl (by decide)
      [("targetName", .str "Read")] [("sources", .arr (readSuggestion.sources.map Source.toJson))]
      (by decide) (.arr [.null])
  have hunknown : Edit .source (Source.toJson ⟨"bufio", "Source"⟩)
      (.obj [("package", .str "bufio"), ("line", .int 7), ("interface", .str "Source")]) :=
    .unknown (by decide) [("package", .str "bufio")] [("interface", .str "Source")] (.int 7)
  have hitem : Edit .suggestion
      (.obj [("targetName", .str "Read"), ("target_name", .arr [.null]),
        ("sources", .arr (readSuggestion.sources.map Source.toJson))]) readSuggestionEdited :=
    .item ⟨["sources"], .list .source⟩ (by decide) rfl (List.mem_singleton_self "sources")
      [("targetName", .str "Read"), ("target_name", .arr [.null])] []
      [Source.toJson ⟨"io", "Reader"⟩] [] hunknown
  exact ((Relation.ReflTransGen.single hrespell).tail hshadow).tail hitem

/-- A diagnostic that makes the suggestion. -/
def reedRenamed : Diagnostic :=
  ⟨4, 11, 15, "Reed", readSuggestion, "rename it", "possible_rename"⟩

/-- What the diagnostic is written as, with another value for its suggestion. -/
def reedRenamedWith (suggestion : Json) : Json :=
  .obj [("line", .int 4), ("start", .int 11), ("end", .int 15), ("method_name", .str "Reed"),
    ("suggestion", suggestion), ("message", .str "rename it"), ("code", .str "possible_rename")]

/-- A diagnostic is read as it was when the suggestion in it has been edited. -/
theorem RecordKind.read_edited_reedRenamed :
    Relation.ReflTransGen (Edit .diagnostic) (RecordKind.diagnostic.write .snake reedRenamed)
        (reedRenamedWith readSuggestionEdited) ∧
      RecordKind.diagnostic.read (reedRenamedWith readSuggestionEdited) = .ok reedRenamed := by
  have hedits : Relation.ReflTransGen (Edit .diagnostic)
      (reedRenamedWith (readSuggestion.toJson .snake)) (reedRenamedWith readSuggestionEdited) := by
    apply readSuggestion_edits.lift reedRenamedWith
    intro old new hedit
    exact .inside ⟨["suggestion"], .record .suggestion⟩ (by decide) rfl (List.mem_singleton_self _)
      [("line", .int 4), ("start", .int 11), ("end", .int 15), ("method_name", .str "Reed")]
      [("message", .str "rename it"), ("code", .str "possible_rename")] hedit
  exact ⟨hedits, (RecordKind.read_edited .diagnostic reedRenamed .snake).2 _ hedits⟩

end NearMiss
