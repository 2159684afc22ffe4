import NearMiss.Proofs.Cut

/-!
# The receiver before a name

A method line begins with the keyword and a receiver in parens. Nothing in this front is taken for
the declaration, not even an exported type name inside nested parens, and the line is recognised by
its keyword whatever follows.
-/

namespace NearMiss

open Text

/-- The keyword and a receiver, up to the name of the method. -/
def receiverFront (receiver : List Char) : List Char :=
  ['f', 'u', 'n', 'c', ' ', '('] ++ receiver ++ [')', ' ']

/-- A receiver is balanced. -/
theorem depth_receiverFront {receiver : List Char} (hreceiver : Balanced receiver) :
    depth (receiverFront receiver) = 0 := by
  have hkeyword : depth ['f', 'u', 'n', 'c', ' ', '('] = 1 := by decide
  have hclose : depth [')', ' '] = -1 := by decide
  rw [receiverFront, depth_append, depth_append, hkeyword, hclose, hreceiver.total]
  decide

/-- No declaration begins in the keyword or in the receiver. -/
theorem passes_receiverFront {receiver : List Char} (hreceiver : Balanced receiver) :
    Passes Declaration.begins 0 (receiverFront receiver) := by
  have hkeyword : Declaration.ExportFree ['f', 'u', 'n', 'c', ' ', '('] := by decide
  have hclose : Declaration.ExportFree [')', ' '] := by decide
  have hinside : Passes Declaration.begins 1 receiver := by
    refine hreceiver.passes fun l c hstop => Or.inl ?_
    simp only [Declaration.begins, Bool.and_eq_true, decide_eq_true_eq] at hstop
    omega
  rw [receiverFront, List.append_assoc, passes_append, passes_append]
  exact ⟨hkeyword.passes 0, hinside, hclose.passes _⟩

/-- A line with a receiver begins with the keyword. -/
theorem startsWithKeyword_receiverFront (receiver rest : List Char) :
    Declaration.startsWithKeyword (String.ofList (receiverFront receiver ++ rest)) "func" =
      true := by
  have htrim : trim (receiverFront receiver ++ rest) =
      'f' :: 'u' :: 'n' :: 'c' :: ' ' :: trimRight ('(' :: (receiver ++ [')', ' '] ++ rest)) := by
    rw [trim, receiverFront]
    exact trimRight_append_cons (by decide) ['f', 'u', 'n', 'c', ' '] _
  have hkeyword : "func".toList = ['f', 'u', 'n', 'c'] := rfl
  have hlength : "func".length = 4 := rfl
  have hnext : Declaration.continuesWord ' ' = false := by decide
  simp [Declaration.startsWithKeyword, htrim, hkeyword, hlength, hnext]

end NearMiss
