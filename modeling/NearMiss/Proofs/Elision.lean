import NearMiss.Proofs.SharedTypes
import Mathlib.Data.List.Forall2

/-!
# Types that are left out

Consecutive names may share a type that is written once, behind the last of them. The names are
resolved from the last to the first, and what one hands on to the one before it is the type as it is
written, with its markers. So a list with types left out declares what the same list declares with
every type in its place: each name has the type and the flags of its group.
-/

namespace NearMiss

open Text

/-! ## Names and types as they are written -/

/-- A name. -/
structure Word where
  /-- Its characters. -/
  text : List Char
  /-- It is not empty and holds no blank, comma or paren. -/
  isWord : IsWord text

/-- Blanks that part a name from its type. -/
structure Gap where
  /-- The blanks. -/
  text : List Char
  /-- There is one at least. -/
  ne_nil : text ≠ []
  /-- Nothing else is there. -/
  allBlank : AllBlank text

/-- A blank is a gap. -/
theorem Gap.blank_ne_nil : [' '] ≠ [] := by decide

/-- A blank is blank. -/
theorem Gap.blank_allBlank : AllBlank [' '] := by decide

/-- A single blank. -/
def Gap.blank : Gap :=
  ⟨[' '], Gap.blank_ne_nil, Gap.blank_allBlank⟩

/-- A type with whatever markers are written before it. -/
structure RawType where
  /-- Its characters. -/
  text : List Char
  /-- It is not empty. -/
  ne_nil : text ≠ []
  /-- It is trimmed and balanced and has no outer comma. -/
  isPiece : Param.IsPiece text

/-- A name with its type behind it. -/
structure TypedName where
  /-- The name. -/
  name : Word
  /-- The blanks behind the name. -/
  gap : Gap
  /-- The type. -/
  type : RawType

namespace TypedName

/-- The name and the type as they are written. -/
def text (e : TypedName) : List Char :=
  e.name.text ++ e.gap.text ++ e.type.text

/-- The parameter that is read from them. -/
def param (e : TypedName) : Param :=
  Param.ofWritten (some e.name.text) e.type.text

/-- The name and the type declare a parameter: it has the name, and the type and the flags of the
written type. -/
structure Declares (e : TypedName) (p : Param) : Prop where
  /-- The parameter has the name. -/
  name_eq : p.name = some (String.ofList e.name.text)
  /-- The parameter has the type and its flags. -/
  hasType : p.HasType e.type.text

/-- A name with a type declares one parameter, and that is the one that is read. -/
theorem declares_iff {e : TypedName} {p : Param} : e.Declares p ↔ p = e.param := by
  constructor
  · intro h
    exact h.hasType.eq_ofWritten h.name_eq
  · rintro rfl
    exact ⟨rfl, Param.hasType_ofWritten _ _⟩

/-- A name with its type is not empty. -/
theorem text_ne_nil (e : TypedName) : e.text ≠ [] := by
  simp [text, e.name.isWord.ne_nil]

/-- A name with its type is an entry of a list. -/
theorem text_isPiece (e : TypedName) : Param.IsPiece e.text :=
  e.type.isPiece.named e.type.ne_nil e.name.isWord.ne_nil e.name.isWord.plain e.gap.allBlank

/-- A name with its type is told apart wherever it stands. -/
theorem resolve_text (e : TypedName) (shareTypes : Bool) (next : List Char) :
    Param.resolve shareTypes next e.text = (some e.name.text, e.type.text) :=
  Param.resolve_named e.name.isWord.plain.blankFree e.gap.allBlank e.gap.ne_nil e.type.ne_nil
    e.type.isPiece.trimmed.head shareTypes next

/-- A list of names with types is read as their parameters. -/
theorem readList_of_lists {entries : List TypedName} {group : List Char} (shareTypes : Bool)
    (h : Param.Lists (entries.map text) group) :
    Param.readList shareTypes group = entries.map param := by
  refine Param.readList_of_lists h (fun e _ => e.text_isPiece) (fun e _ => e.text_ne_nil) ?_
  intro e _ next
  rw [Param.declared, e.resolve_text, param]

end TypedName

/-! ## Groups of names that share a type -/

/-- Names that share a type. -/
structure TypeGroup where
  /-- The names before the last. -/
  front : List Word
  /-- The last name. -/
  last : Word
  /-- The blanks between a name and the type. -/
  gap : Gap
  /-- The type of all of them. -/
  type : RawType

namespace TypeGroup

/-- The group with the type written once, behind the last name. -/
def elided (g : TypeGroup) : List (List Char) :=
  g.front.map Word.text ++ [TypedName.text ⟨g.last, g.gap, g.type⟩]

/-- The group with the type written behind each name. -/
def expanded (g : TypeGroup) : List TypedName :=
  (g.front ++ [g.last]).map fun name => ⟨name, g.gap, g.type⟩

/-- An entry of a group is an entry of a list, with or without its type. -/
theorem isPiece_of_mem_elided {g : TypeGroup} {piece : List Char} (h : piece ∈ g.elided) :
    Param.IsPiece piece ∧ piece ≠ [] := by
  rcases List.mem_append.mp h with hfront | hlast
  · obtain ⟨name, -, rfl⟩ := List.mem_map.mp hfront
    exact ⟨name.isWord.isPiece, name.isWord.ne_nil⟩
  · obtain rfl := List.mem_singleton.mp hlast
    exact ⟨TypedName.text_isPiece _, TypedName.text_ne_nil _⟩

/-- A group before other pieces is read as if each name had the type, whatever the others are. -/
theorem resolveAll_elided_append (g : TypeGroup) (later : List (List Char)) :
    Param.resolveAll true (g.elided ++ later) =
      (g.expanded.map TypedName.param ++ (Param.resolveAll true later).1, g.type.text) := by
  let last : TypedName := ⟨g.last, g.gap, g.type⟩
  have hlast : Param.resolveAll true (last.text :: later) =
      (last.param :: (Param.resolveAll true later).1, g.type.text) := by
    rw [Param.resolveAll_cons, Param.declared, last.resolve_text, TypedName.param]
  have hnames : ∀ name ∈ g.front.map Word.text, BlankFree name := by
    intro name hname
    obtain ⟨word, -, rfl⟩ := List.mem_map.mp hname
    exact word.isWord.plain.blankFree
  have hnext : (Param.resolveAll true (last.text :: later)).2 ≠ [] := by
    rw [hlast]
    exact g.type.ne_nil
  rw [elided, List.append_assoc, List.singleton_append,
    Param.resolveAll_names_append hnames hnext, hlast]
  simp only [expanded, List.map_append, List.map_map, List.map_singleton, List.append_assoc,
    List.singleton_append]
  rfl

/-- Types that are left out are those of the next entry that has one. -/
theorem resolveAll_elided (groups : List TypeGroup) :
    (Param.resolveAll true (groups.flatMap elided)).1 =
      (groups.flatMap expanded).map TypedName.param := by
  induction groups with
  | nil => rfl
  | cons g groups ih =>
    rw [List.flatMap_cons, List.flatMap_cons, resolveAll_elided_append, ih, List.map_append]

/-- A list with types left out is read as the parameters of the list with every type. -/
theorem readList_of_lists {groups : List TypeGroup} {group : List Char}
    (h : Param.Lists (groups.flatMap elided) group) :
    Param.readList true group = (groups.flatMap expanded).map TypedName.param := by
  have hpiece : ∀ piece ∈ groups.flatMap elided, Param.IsPiece piece ∧ piece ≠ [] := by
    intro piece hmem
    obtain ⟨g, -, hg⟩ := List.mem_flatMap.mp hmem
    exact isPiece_of_mem_elided hg
  have hpieces : Param.pieces group = groups.flatMap elided := by
    refine Param.pieces_of_lists h (fun piece hmem => (hpiece piece hmem).1) ?_
    intro hlast
    exact (hpiece [] (List.mem_of_getLast? hlast)).2 rfl
  rw [Param.readList, hpieces, resolveAll_elided]

end TypeGroup

/-- A parameter list with types left out is read like the same list with the type of each group
behind each of its names, with any blanks around the commas and with or without a comma at the end.
What is read is the one list that gives each name, in order, the type of its group and its flags. -/
theorem Param.readList_elided {groups : List TypeGroup} {elided expanded : List Char}
    (helided : Lists (groups.flatMap TypeGroup.elided) elided)
    (hexpanded : Lists ((groups.flatMap TypeGroup.expanded).map TypedName.text) expanded) :
    readList true elided = readList true expanded ∧
      ∀ params, readList true elided = params ↔
        List.Forall₂ TypedName.Declares (groups.flatMap TypeGroup.expanded) params := by
  have hread := TypeGroup.readList_of_lists helided
  refine ⟨hread.trans (TypedName.readList_of_lists true hexpanded).symm, fun params => ?_⟩
  have hdeclares : TypedName.Declares = fun e p => e.param = p := by
    funext e p
    exact propext (TypedName.declares_iff.trans eq_comm)
  rw [hread, hdeclares, ← List.forall₂_map_left_iff, List.forall₂_eq_eq_eq]

/-- Two names that share a pointer to a function of two arguments, and a variadic parameter. -/
def callbackGroups : List TypeGroup :=
  [{ front := [⟨"pre".toList, by decide⟩], last := ⟨"post".toList, by decide⟩
     gap := .blank
     type := ⟨"*func(key, value T)".toList, by decide, by decide⟩ },
    { front := [], last := ⟨"opts".toList, by decide⟩
      gap := .blank
      type := ⟨"...Option".toList, by decide, by decide⟩ }]

/-- These groups with types left out, blanks before a comma and a comma at the end, and in full. -/
theorem Param.readList_elided_callbacks :
    let elided := "pre ,post *func(key, value T), opts ...Option,\n".toList
    let expanded := "pre *func(key, value T), post *func(key, value T)\n,opts ...Option".toList
    Lists (callbackGroups.flatMap TypeGroup.elided) elided ∧
      Lists ((callbackGroups.flatMap TypeGroup.expanded).map TypedName.text) expanded ∧
      readList true elided = readList true expanded ∧
      readList true elided =
        [⟨some "pre", "func(key, value T)", false, true⟩,
          ⟨some "post", "func(key, value T)", false, true⟩,
          ⟨some "opts", "Option", true, false⟩] := by
  intro elided expanded
  have helided : Lists (callbackGroups.flatMap TypeGroup.elided) elided :=
    @Lists.more _ [] [' '] _ _ (by decide) (by decide)
      (@Lists.more _ [] [] _ _ (by decide) (by decide)
        (@Lists.more _ [' '] [] _ _ (by decide) (by decide)
          (@Lists.nothing ['\n'] (by decide))))
  have hexpanded :
      Lists ((callbackGroups.flatMap TypeGroup.expanded).map TypedName.text) expanded :=
    @Lists.more _ [] [] _ _ (by decide) (by decide)
      (@Lists.more _ [' '] ['\n'] _ _ (by decide) (by decide)
        (@Lists.last _ [] [] (by decide) (by decide)))
  obtain ⟨hsame, hflat⟩ := readList_elided helided hexpanded
  refine ⟨helided, hexpanded, hsame, (hflat _).mpr ?_⟩
  refine .cons ⟨rfl, ?_⟩ (.cons ⟨rfl, ?_⟩ (.cons ⟨rfl, ?_⟩ .nil))
  · exact ⟨⟨1, by decide, rfl⟩, by decide⟩
  · exact ⟨⟨1, by decide, rfl⟩, by decide⟩
  · exact ⟨⟨0, by decide, rfl⟩, by decide⟩

end NearMiss
