import NearMiss.Proofs.Markers
import NearMiss.Proofs.Pieces

/-!
# Entries of a group as they are written

A type is written as stars, perhaps a variadic marker, and the type itself. An entry of a parameter
list is a name and a type with blanks between them; an entry of a result list may also be a type
alone. Each entry carries what its reader relies on, so that reading a list of entries gives their
parameters without further conditions.
-/

namespace NearMiss

open Text

/-- A text without blanks, commas and parens. -/
def Plain (s : List Char) : Prop :=
  ∀ c ∈ s, isBlank c = false ∧ c ≠ ',' ∧ c ≠ '(' ∧ c ≠ ')'

instance (s : List Char) : Decidable (Plain s) :=
  List.decidableBAll (fun c => isBlank c = false ∧ c ≠ ',' ∧ c ≠ '(' ∧ c ≠ ')') s

/-- A plain text has no blanks. -/
theorem Plain.blankFree {s : List Char} (hs : Plain s) : BlankFree s :=
  fun c hc => (hs c hc).1

/-- A plain text has no parentheses. -/
theorem Plain.parenFree {s : List Char} (hs : Plain s) : ParenFree s :=
  fun c hc => (hs c hc).2.2

/-- Plain texts follow each other plain. -/
theorem Plain.append {s t : List Char} (hs : Plain s) (ht : Plain t) : Plain (s ++ t) := by
  intro c hc
  rcases List.mem_append.mp hc with hc | hc
  · exact hs c hc
  · exact ht c hc

/-- Markers hold no blank, comma or paren. -/
theorem markers_plain (stars : Nat) (isVariadic : Bool) : Plain (markers stars isVariadic) := by
  have hstars : Plain (List.replicate stars '*') := by
    intro c hc
    rw [List.eq_of_mem_replicate hc]
    decide
  refine hstars.append ?_
  split <;> decide

namespace Param

/-- The parameter that a piece declares, where `next` is the written type of the one after it. -/
def declared (shareTypes : Bool) (next piece : List Char) : Param :=
  ofWritten (resolve shareTypes next piece).1 (resolve shareTypes next piece).2

/-- Entries are resolved from the last to the first. -/
theorem resolveAll_cons (shareTypes : Bool) (piece : List Char) (later : List (List Char)) :
    resolveAll shareTypes (piece :: later) =
      (declared shareTypes (resolveAll shareTypes later).2 piece :: (resolveAll shareTypes later).1,
        (resolve shareTypes (resolveAll shareTypes later).2 piece).2) :=
  rfl

/-- A type is what follows the markers of the written one. -/
theorem exists_markers_append (name : Option (List Char)) (written : List Char) :
    ∃ front, ParenFree front ∧ written = front ++ (ofWritten name written).type.toList := by
  obtain ⟨stars, hsplit, -⟩ := (hasType_ofWritten name written).split
  exact ⟨_, (markers_plain _ _).parenFree, hsplit⟩

/-- A name and blanks before a piece make a longer piece. -/
theorem IsPiece.named {name gap written : List Char} (hwritten : IsPiece written)
    (hne : written ≠ []) (hname : name ≠ []) (hplain : Plain name) (hgap : AllBlank gap) :
    IsPiece (name ++ gap ++ written) := by
  refine hwritten.prepend hne ?_ (hplain.parenFree.append hgap.parenFree) ?_
  · rw [List.head?_append_of_ne_nil _ hname]
    exact hplain.blankFree.trimmed.head
  · intro c hc
    rcases List.mem_append.mp hc with hfirst | hblank
    · exact (hplain c hfirst).2.1
    · rintro rfl
      exact absurd (hgap ',' hblank) (by decide)

/-- A name and a type are told apart at the blanks between them. -/
theorem resolve_named {name gap written : List Char} (hname : BlankFree name)
    (hgap : AllBlank gap) (hgapne : gap ≠ []) (hne : written ≠ [])
    (hhead : ∀ c ∈ written.head?, isBlank c = false) (shareTypes : Bool) (next : List Char) :
    resolve shareTypes next (name ++ gap ++ written) = (some name, written) := by
  have hsplit := splitWord_append hname hgap hgapne hhead
  have hempty : written.isEmpty = false := by simpa using hne
  simp only [resolve, hsplit, hempty, Bool.false_and, Bool.false_eq_true, if_false]

/-- A name with a type declares both, whatever the next piece is. -/
theorem declared_named {name gap written : List Char} (hname : BlankFree name)
    (hgap : AllBlank gap) (hgapne : gap ≠ []) (hne : written ≠ [])
    (hhead : ∀ c ∈ written.head?, isBlank c = false) (shareTypes : Bool) (next : List Char) :
    declared shareTypes next (name ++ gap ++ written) = ofWritten (some name) written := by
  rw [declared, resolve_named hname hgap hgapne hne hhead]

/-- Where types are not shared, a word alone declares a type without a name. -/
theorem declared_word {written : List Char} (hfree : BlankFree written) (next : List Char) :
    declared false next written = ofWritten none written := by
  have hresolve : resolve false next written = (none, written) := by
    simp [resolve, splitWord_eq_self hfree]
  rw [declared, hresolve]

/-- Pieces that leave nothing to the ones after them are read one by one. -/
theorem resolveAll_map {α : Type} {shareTypes : Bool} {text : α → List Char} {param : α → Param}
    {entries : List α}
    (h : ∀ e ∈ entries, ∀ next, declared shareTypes next (text e) = param e) :
    (resolveAll shareTypes (entries.map text)).1 = entries.map param := by
  induction entries with
  | nil => rfl
  | cons e entries ih =>
    have hlater := ih fun d hd => h d (by simp [hd])
    rw [List.map_cons, List.map_cons, resolveAll_cons, hlater, h e (by simp)]

/-- A list of pieces that each declare their own parameter is read as these parameters. -/
theorem readList_of_lists {α : Type} {shareTypes : Bool} {text : α → List Char}
    {param : α → Param} {entries : List α} {group : List Char}
    (h : Lists (entries.map text) group) (hpiece : ∀ e ∈ entries, IsPiece (text e))
    (hne : ∀ e ∈ entries, text e ≠ [])
    (hparam : ∀ e ∈ entries, ∀ next, declared shareTypes next (text e) = param e) :
    readList shareTypes group = entries.map param := by
  have hpieces : pieces group = entries.map text := by
    refine pieces_of_lists h (by simpa using hpiece) ?_
    rw [List.getLast?_map, ne_eq, Option.map_eq_some_iff]
    rintro ⟨e, he, hnil⟩
    exact hne e (List.mem_of_getLast? he) hnil
  rw [readList, hpieces, resolveAll_map hparam]

end Param

/-- A type as it is written: stars, perhaps a variadic marker, and the type. -/
structure WrittenType where
  /-- The number of stars. -/
  stars : Nat
  /-- Whether `...` stands between the stars and the type. -/
  isVariadic : Bool
  /-- The type without its markers. -/
  type : List Char
  /-- There is a type. -/
  type_ne_nil : type ≠ []
  /-- The type is trimmed and balanced and has no outer comma. -/
  type_isPiece : Param.IsPiece type
  /-- Where no variadic marker sets it off, the type does not begin like a marker. -/
  type_unmarked : isVariadic = false → StartsBare type

namespace WrittenType

/-- The type with its markers. -/
def text (t : WrittenType) : List Char :=
  markers t.stars t.isVariadic ++ t.type

/-- The parameter that has this type. -/
def param (t : WrittenType) (name : Option (List Char)) : Param where
  name := name.map String.ofList
  type := String.ofList t.type
  isVariadic := t.isVariadic
  isPointer := 0 < t.stars

/-- A type is not empty with its markers. -/
theorem text_ne_nil (t : WrittenType) : t.text ≠ [] := by
  simp [text, t.type_ne_nil]

/-- A type is trimmed and balanced with its markers and has no outer comma. -/
theorem text_isPiece (t : WrittenType) : Param.IsPiece t.text := by
  have hmarkers := markers_plain t.stars t.isVariadic
  exact t.type_isPiece.prepend t.type_ne_nil hmarkers.blankFree.trimmed.head
    hmarkers.parenFree fun c hc => (hmarkers c hc).2.1

/-- A plain type is plain with its markers. -/
theorem text_plain (t : WrittenType) (htype : Plain t.type) : Plain t.text :=
  (markers_plain t.stars t.isVariadic).append htype

/-- The parameter has the type as it is written. -/
theorem hasType_param (t : WrittenType) (name : Option (List Char)) :
    (t.param name).HasType t.text where
  split := by
    refine ⟨t.stars, ?_, rfl⟩
    rw [text, param, String.toList_ofList]
  bare hvariadic := by
    rw [param, String.toList_ofList]
    exact t.type_unmarked hvariadic

/-- Markers are told from the type they stand before. -/
theorem ofWritten_text (t : WrittenType) (name : Option (List Char)) :
    Param.ofWritten name t.text = t.param name :=
  ((t.hasType_param name).eq_ofWritten rfl).symm

/-- Where types are not shared, a type of one word alone declares a parameter without a name. -/
theorem declared_text (t : WrittenType) (hfree : BlankFree t.type) (next : List Char) :
    Param.declared false next t.text = t.param none := by
  have htext : BlankFree t.text := by
    intro c hc
    rcases List.mem_append.mp hc with hc | hc
    · exact (markers_plain t.stars t.isVariadic).blankFree c hc
    · exact hfree c hc
  rw [Param.declared_word htext, ofWritten_text]

end WrittenType

/-- A parameter with its name: the name, blanks, and the type. -/
structure NamedEntry where
  /-- The name. -/
  name : List Char
  /-- The blanks after the name. -/
  gap : List Char
  /-- The type. -/
  written : WrittenType
  /-- There is a name. -/
  name_ne_nil : name ≠ []
  /-- The name is one word that no reader takes apart. -/
  name_plain : Plain name
  /-- The name ends before the type begins. -/
  gap_ne_nil : gap ≠ []
  /-- Only blanks stand between the name and the type. -/
  gap_allBlank : AllBlank gap

namespace NamedEntry

/-- The entry as it is written. -/
def text (e : NamedEntry) : List Char :=
  e.name ++ e.gap ++ e.written.text

/-- The parameter that the entry declares. -/
def param (e : NamedEntry) : Param :=
  e.written.param (some e.name)

/-- A named entry is not empty. -/
theorem text_ne_nil (e : NamedEntry) : e.text ≠ [] := by
  simp [text, e.name_ne_nil]

/-- A named entry is an entry of a list. -/
theorem text_isPiece (e : NamedEntry) : Param.IsPiece e.text :=
  e.written.text_isPiece.named e.written.text_ne_nil e.name_ne_nil e.name_plain e.gap_allBlank

/-- A name with a type declares both, whatever the next entry is. -/
theorem declared_text (e : NamedEntry) (shareTypes : Bool) (next : List Char) :
    Param.declared shareTypes next e.text = e.param := by
  rw [text, Param.declared_named e.name_plain.blankFree e.gap_allBlank e.gap_ne_nil
    e.written.text_ne_nil e.written.text_isPiece.trimmed.head, WrittenType.ofWritten_text, param]

/-- A list of names with types is read as their parameters. -/
theorem readList_of_lists {entries : List NamedEntry} {group : List Char} (shareTypes : Bool)
    (h : Param.Lists (entries.map text) group) :
    Param.readList shareTypes group = entries.map param :=
  Param.readList_of_lists h (fun e _ => e.text_isPiece) (fun e _ => e.text_ne_nil)
    fun e _ next => e.declared_text shareTypes next

end NamedEntry

/-- An entry of a result list: a name with a type, or a type alone that is one word. -/
inductive ResultEntry where
  /-- A result with a name. -/
  | named (entry : NamedEntry)
  /-- A type alone. -/
  | bare (written : WrittenType) (type_blankFree : BlankFree written.type)

namespace ResultEntry

/-- The entry as it is written. -/
def text : ResultEntry → List Char
  | named entry => entry.text
  | bare written _ => written.text

/-- The parameter that the entry declares. -/
def param : ResultEntry → Param
  | named entry => entry.param
  | bare written _ => written.param none

/-- The entry of a result is not empty. -/
theorem text_ne_nil (e : ResultEntry) : e.text ≠ [] := by
  cases e with
  | named entry => exact entry.text_ne_nil
  | bare written _ => exact written.text_ne_nil

/-- The entry of a result is an entry of a list. -/
theorem text_isPiece (e : ResultEntry) : Param.IsPiece e.text := by
  cases e with
  | named entry => exact entry.text_isPiece
  | bare written _ => exact written.text_isPiece

/-- The entry of a result declares that result. -/
theorem declared_text (e : ResultEntry) (next : List Char) :
    Param.declared false next e.text = e.param := by
  cases e with
  | named entry => exact entry.declared_text false next
  | bare written hfree => exact written.declared_text hfree next

/-- A list of results is read as their parameters. -/
theorem readList_of_lists {entries : List ResultEntry} {group : List Char}
    (h : Param.Lists (entries.map text) group) :
    Param.readList false group = entries.map param :=
  Param.readList_of_lists h (fun e _ => e.text_isPiece) (fun e _ => e.text_ne_nil)
    fun e _ next => e.declared_text next

end ResultEntry

end NearMiss
