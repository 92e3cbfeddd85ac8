import CloudTemplate.Proofs.Reference.Work

/-!
# Raising the limit of a scan

A scan that is cut short at its limit can be run again with a higher one.  What it has found by then
it finds again, in the same order, with what lies deeper in between (`scan_sublist_of_le`); and a
scan that was not cut short is not changed by any higher limit.  So a reader of the references need
not know the limit, unless it is told that the scan was truncated.

The two scans go through different lists of work: where the lower limit drops a value, the higher
one goes into it.  What the value yields there is set off against the mark that the other scan makes
of it (`Scan.IsCut.marked`), and behind it both go on with the same work.
-/

namespace CloudTemplate

namespace Scan

/-- A scan is another one with some parts left out, and says so if it is not the other one itself.
-/
structure IsCut (a b : Scan) : Prop where
  /-- What is left stands in the same order. -/
  references : a.references.Sublist b.references
  /-- Where the other one was cut short, so was this one. -/
  truncated : b.truncated = true → a.truncated = true
  /-- Nothing is left out without a mark. -/
  whole : a.truncated = false → a = b

namespace IsCut

variable {a b : Scan}

lemma refl (a : Scan) : a.IsCut a := ⟨List.Sublist.refl _, id, fun _ => rfl⟩

/-- A mark makes up for all that is left out behind it. -/
lemma marked (h : a.IsCut b) (c : Scan) : IsCut ⟨a.references, true⟩ (b ++ c) where
  references := h.references.trans (List.sublist_append_left _ _)
  truncated := fun _ => rfl
  whole := fun hwhole => absurd hwhole Bool.noConfusion

/-- What both find stays with both. -/
lemma extended (h : a.IsCut b) (references : List Reference) :
    IsCut ⟨a.references ++ references, a.truncated⟩ ⟨b.references ++ references, b.truncated⟩ where
  references := h.references.append (List.Sublist.refl _)
  truncated := h.truncated
  whole := fun hwhole => by rw [h.whole hwhole]

end IsCut

end Scan

variable {limit higher : Nat}

/-- From what a lower limit has found, it goes on to find no more than a higher one. -/
lemma scanWork_isCut (hle : limit ≤ higher) {found more : Scan} (h : found.IsCut more)
    (work : List (PropertyValue × Nat)) :
    (scanWork limit found work).IsCut (scanWork higher more work) := by
  -- The induction follows the lower limit; the other scan has found something else on the way.
  induction found, work using scanWork.induct limit generalizing more with
  | case1 found => rwa [scanWork, scanWork]
  | case2 found value depth rest hdeep ih =>
    have hvalue : scanWork higher more ((value, depth) :: rest) =
        scanWork higher (more ++ scanAt higher depth value) rest := by
      rw [scanWork_eq_append, ← List.singleton_append, scanWork_append, ← Scan.append_assoc,
        ← scanAt, ← scanWork_eq_append]
    rw [hvalue, scanWork, if_pos hdeep]
    exact ih (h.marked _)
  | case3 found value depth rest hdeep ih =>
    have hdeep' : ¬ higher < depth := fun h => hdeep (Nat.lt_of_le_of_lt hle h)
    rw [scanWork, if_neg hdeep, scanWork, if_neg hdeep']
    exact ih (h.extended _)

/-- With a higher limit, a scan finds what it found with the lower one, in the same order.  It is
cut short only if it was cut short before, and if it was not, then nothing changes at all. -/
theorem scan_sublist_of_le (h : limit ≤ higher) (v : PropertyValue) :
    (scan limit v).references.Sublist (scan higher v).references ∧
      ((scan higher v).truncated = true → (scan limit v).truncated = true) ∧
      ((scan limit v).truncated = false → scan higher v = scan limit v) := by
  have hcut := scanWork_isCut h (.refl ⟨[], false⟩) [(v, 0)]
  exact ⟨hcut.references, hcut.truncated, fun hwhole => (hcut.whole hwhole).symm⟩

/-- References at three levels, one of them in the variables of an `Fn::Sub`. -/
def layeredValue : PropertyValue := .list [
  .ref "near",
  .map [(subKey, .list [.string "$\x7bQueue\x7d-$\x7bName\x7d",
    .map [("Name", .list [.ref "deep"])]])],
  .ref "last"]

/-- The limit of three finds one reference more than that of one, between two that are found by
both.  A still higher limit finds no more. -/
theorem scan_sublist_of_le_layeredValue :
    1 ≤ 3 ∧ 3 ≤ 9 ∧
      scan 1 layeredValue = ⟨[.ref "near", .sub "Queue", .ref "last"], true⟩ ∧
      scan 3 layeredValue = ⟨[.ref "near", .sub "Queue", .ref "deep", .ref "last"], false⟩ ∧
      (scan 1 layeredValue).references.Sublist (scan 3 layeredValue).references ∧
      scan 9 layeredValue = scan 3 layeredValue := by
  have hlow : 1 ≤ 3 := by decide
  have hhigh : 3 ≤ 9 := by decide
  have hcut : scan 1 layeredValue = ⟨[.ref "near", .sub "Queue", .ref "last"], true⟩ := by
    decide +kernel
  have hwhole : scan 3 layeredValue =
      ⟨[.ref "near", .sub "Queue", .ref "deep", .ref "last"], false⟩ := by
    decide +kernel
  obtain ⟨hkept, -⟩ := scan_sublist_of_le hlow layeredValue
  obtain ⟨-, -, hsame⟩ := scan_sublist_of_le hhigh layeredValue
  exact ⟨hlow, hhigh, hcut, hwhole, hkept, hsame (congrArg Scan.truncated hwhole)⟩

end CloudTemplate
