import NearMiss.Proofs.Positions

/-!
# The parts of a declaration by position

Reading a declaration is a single walk with one depth for all its parts, and any text can be read,
with parens that are never closed or that close nothing. This file says of every text what comes
out, by positions alone: the name ends at the first paren that makes the depth one, the parameters
end where the depth is zero again for the first time, and the results are what follows, without the
parens that lead from depth zero to one and back.
-/

namespace NearMiss.Method

open Text

/-- The paren at a position is the first that makes the depth one. -/
structure OpensAt (s : List Char) (i : Nat) : Prop where
  /-- An opening paren stands there. -/
  paren : s[i]? = some '('
  /-- It makes the depth one. -/
  depth_eq : depth (s.take (i + 1)) = 1
  /-- No paren before it does. -/
  first : ∀ k < i, s[k]? = some '(' → depth (s.take (k + 1)) ≠ 1

/-- A position is the first behind another one whose character makes the depth zero. -/
structure ReturnsAt (s : List Char) (i j : Nat) : Prop where
  /-- It comes later. -/
  later : i < j
  /-- It is a position of the text. -/
  lt_length : j < s.length
  /-- Its character makes the depth zero. -/
  depth_eq : depth (s.take (j + 1)) = 0
  /-- No character between the two positions does. -/
  first : ∀ k, i < k → k < j → depth (s.take (k + 1)) ≠ 0

/-- A paren that leads from depth zero to one or back stands at a position. -/
def IsOutermost (s : List Char) (k : Nat) : Prop :=
  s[k]? = some '(' ∧ depth (s.take k) = 0 ∨ s[k]? = some ')' ∧ depth (s.take k) = 1

instance (s : List Char) (k : Nat) : Decidable (IsOutermost s k) :=
  inferInstanceAs (Decidable (_ ∨ _))

/-- The text from a position on without its outermost parens. -/
def withoutOutermost (s : List Char) (start : Nat) : List Char :=
  ((s.zipIdx.drop start).filter fun entry => !decide (IsOutermost s entry.2)).map (·.1)

/-- Taking off outermost parens goes by the depth at each position. -/
theorem dropOuterParens_eq_withoutOutermost (before rest : List Char) :
    dropOuterParens (depth before) rest = withoutOutermost (before ++ rest) before.length := by
  induction rest generalizing before with
  | nil =>
    rw [List.append_nil, withoutOutermost, List.drop_eq_nil_of_le (by simp)]
    rfl
  | cons c rest ih =>
    -- One character goes over to the text before, so positions stay those of the whole text.
    have hlater := ih (before ++ [c])
    rw [depth_append, depth_cons, depth_nil, Int.add_zero, List.append_assoc,
      List.singleton_append, List.length_append, List.length_singleton] at hlater
    have hentries : (before ++ c :: rest).zipIdx.drop before.length =
        (c, before.length) :: (before ++ c :: rest).zipIdx.drop (before.length + 1) := by
      rw [List.drop_eq_getElem_cons (by simp)]
      simp
    have houtermost : IsOutermost (before ++ c :: rest) before.length ↔
        c = '(' ∧ depth before = 0 ∨ c = ')' ∧ depth before = 1 := by
      simp [IsOutermost]
    rw [dropOuterParens, hlater, withoutOutermost, withoutOutermost, hentries]
    by_cases hdrop : c = '(' ∧ depth before = 0 ∨ c = ')' ∧ depth before = 1
    · rw [if_pos hdrop, List.filter_cons_of_neg (by simpa using houtermost.mpr hdrop)]
    · rw [if_neg hdrop, List.filter_cons_of_pos (by simpa using houtermost.not.mpr hdrop),
        List.map_cons]

/-- Behind a position of depth zero, the walk that takes off outermost parens begins anew. -/
theorem dropOuterParens_drop {s : List Char} {n : Nat} (hn : n ≤ s.length)
    (hdepth : depth (s.take n) = 0) : dropOuterParens 0 (s.drop n) = withoutOutermost s n := by
  have h := dropOuterParens_eq_withoutOutermost (s.take n) (s.drop n)
  rwa [hdepth, List.take_append_drop, List.length_take_of_le hn] at h

/-- A name ends at the first paren that makes the depth one. -/
theorem exists_opensAt_of_cutOpen? {s name afterName : List Char}
    (h : cutOpen? 0 s = some (name, afterName)) :
    ∃ i, OpensAt s i ∧ name = s.take i ∧ afterName = s.drop (i + 1) := by
  obtain ⟨rfl, hpass, hdepth⟩ := cutOpen?_eq_some_iff.mp h
  have hparen : (name ++ '(' :: afterName)[name.length]? = some '(' := by simp
  refine ⟨name.length, ⟨hparen, ?_, fun k hk _ => ?_⟩, by simp, by simp⟩
  · rw [depth_take_succ hparen, List.take_left, turn_open]
    omega
  · have hshort : k + 1 ≤ name.length := hk
    have hnonpos := hpass.depth_take_nonpos (k + 1)
    rw [List.take_append_of_le_length hshort]
    omega

/-- The depth behind the paren that opens the parameters counts from one. -/
theorem OpensAt.depth_take {s : List Char} {i : Nat} (hopens : OpensAt s i) (n : Nat) :
    depth (s.take (i + 1 + n)) = 1 + depth ((s.drop (i + 1)).take n) := by
  rw [depth_take_add, hopens.depth_eq]

/-- A group that is not closed keeps the depth from being zero again. -/
theorem OpensAt.depth_ne_zero {s : List Char} {i : Nat} (hopens : OpensAt s i)
    (h : cutClose? 1 (s.drop (i + 1)) = none) {k : Nat} (hlater : i < k) :
    depth (s.take (k + 1)) ≠ 0 := by
  obtain ⟨n, rfl⟩ := Nat.exists_eq_add_of_lt hlater
  have hpos := (cutClose?_eq_none_iff.mp h).one_le_depth_take (n + 1)
  rw [show i + n + 1 + 1 = i + 1 + (n + 1) by omega, hopens.depth_take]
  omega

/-- The parameters end where the depth is zero again for the first time. -/
theorem OpensAt.exists_returnsAt {s params afterParams : List Char} {i : Nat}
    (hopens : OpensAt s i) (h : cutClose? 1 (s.drop (i + 1)) = some (params, afterParams)) :
    ∃ j, ReturnsAt s i j ∧ params = (s.take j).drop (i + 1) ∧
      afterParams = s.drop (j + 1) := by
  obtain ⟨hrest, hpass, hdepth⟩ := cutClose?_eq_some_iff.mp h
  have hclose : (s.drop (i + 1))[params.length]? = some ')' := by simp [hrest]
  refine ⟨i + 1 + params.length, ⟨by omega, ?_, ?_, fun k hlater hk => ?_⟩, ?_, ?_⟩
  · have hlength := congrArg List.length hrest
    rw [List.length_drop, List.length_append, List.length_cons] at hlength
    omega
  · rw [Nat.add_assoc, hopens.depth_take, depth_take_succ hclose, hrest, List.take_left,
      turn_close]
    omega
  · obtain ⟨n, rfl⟩ := Nat.exists_eq_add_of_lt hlater
    have hpos := hpass.one_le_depth_take (n + 1)
    have hshort : n + 1 ≤ params.length := by omega
    rw [show i + n + 1 + 1 = i + 1 + (n + 1) by omega, hopens.depth_take, hrest,
      List.take_append_of_le_length hshort]
    omega
  · rw [List.drop_take, hrest, Nat.add_sub_cancel_left, List.take_left]
  · rw [Nat.add_assoc, ← List.drop_drop, hrest, List.drop_append]
    simp

/-- What is read behind the paren that opens the parameters. -/
theorem OpensAt.groups_eq {s : List Char} {i : Nat} (hopens : OpensAt s i) :
    ((∀ k, i < k → depth (s.take (k + 1)) ≠ 0) → groups (s.drop (i + 1)) = ([], [])) ∧
      ((∃ k, i < k ∧ depth (s.take (k + 1)) = 0) → ∃ j, ReturnsAt s i j ∧
        groups (s.drop (i + 1)) =
          (Param.readList true ((s.take j).drop (i + 1)),
            Param.readList false (withoutOutermost s (j + 1)))) := by
  cases hclose : cutClose? 1 (s.drop (i + 1)) with
  | none =>
    refine ⟨fun _ => by rw [groups, hclose], ?_⟩
    rintro ⟨k, hlater, hzero⟩
    exact absurd hzero (hopens.depth_ne_zero hclose hlater)
  | some cut =>
    obtain ⟨j, hreturns, hparams, hafter⟩ := hopens.exists_returnsAt hclose
    refine ⟨fun hnever => absurd hreturns.depth_eq (hnever j hreturns.later), fun _ => ?_⟩
    refine ⟨j, hreturns, ?_⟩
    rw [groups, hclose]
    simp only [hparams, hafter, dropOuterParens_drop hreturns.lt_length hreturns.depth_eq]

/-- Every text, balanced or not, is read by positions. If its depth is never one, nothing is found.
Otherwise the name ends at the first paren that makes the depth one; if the depth is not zero again
behind that paren only the name is found, and else the parameters end at the first position where it
is, and the results are what follows without the parens that lead from depth zero to one and back.
The text itself is always kept. -/
theorem parse_by_position (signature : String) :
    (parse signature).signature = signature ∧
      let s := signature.toList
      let m := parse signature
      ((∀ k, depth (s.take k) ≠ 1) → m.name = "" ∧ m.params = [] ∧ m.returns = []) ∧
      ((∃ k, depth (s.take k) = 1) → ∃ i, OpensAt s i ∧
        m.name = String.ofList (trim (s.take i)) ∧
        ((∀ k, i < k → depth (s.take (k + 1)) ≠ 0) → m.params = [] ∧ m.returns = []) ∧
        ((∃ k, i < k ∧ depth (s.take (k + 1)) = 0) → ∃ j, ReturnsAt s i j ∧
          m.params = Param.readList true ((s.take j).drop (i + 1)) ∧
          m.returns = Param.readList false (withoutOutermost s (j + 1)))) := by
  refine ⟨signature_parse signature, ?_⟩
  intro s m
  cases hopen : cutOpen? 0 s with
  | none =>
    have hm : m = ⟨signature, "", [], []⟩ := by simp only [m, parse, s, hopen]
    refine ⟨fun _ => by simp [hm], ?_⟩
    rintro ⟨k, hone⟩
    have hnonpos := (cutOpen?_eq_none_iff.mp hopen).depth_take_nonpos k
    omega
  | some cut =>
    obtain ⟨i, hopens, hname, hafter⟩ := exists_opensAt_of_cutOpen? hopen
    have hm : m = ⟨signature, String.ofList (trim (s.take i)), (groups (s.drop (i + 1))).1,
        (groups (s.drop (i + 1))).2⟩ := by
      rw [← hname, ← hafter]
      exact parse_of_cutOpen? hopen
    obtain ⟨hnever, hagain⟩ := hopens.groups_eq
    refine ⟨fun hnot => absurd hopens.depth_eq (hnot _), fun _ => ⟨i, hopens, ?_, ?_, ?_⟩⟩
    · rw [hm]
    · intro hnot
      simp [hm, hnever hnot]
    · intro hzero
      obtain ⟨j, hreturns, hgroups⟩ := hagain hzero
      exact ⟨j, hreturns, by rw [hm, hgroups], by rw [hm, hgroups]⟩

/-- Stray closing parens before the name shift the depth, so that the second paren that is opened
ends the name, and of the results only the outermost parens are taken off. -/
example : parse ")a( B(x f(y)) (g(h), i) )j" =
    ⟨")a( B(x f(y)) (g(h), i) )j", ")a( B", [⟨some "x", "f(y)", false, false⟩],
      [⟨none, "g(h)", false, false⟩, ⟨some "i", ")j", false, false⟩]⟩ := by
  decide

end NearMiss.Method
