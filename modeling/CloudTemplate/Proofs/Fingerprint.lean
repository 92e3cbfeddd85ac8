import CloudTemplate.Fingerprint
import CloudTemplate.Proofs.Json.Canonical
import CloudTemplate.Proofs.Json.Suffix

/-!
# What the text behind a fingerprint tells

The text behind the fingerprint of a graph puts the name of the graph, its canonical text and the
version of the engine in a row, with colons between them.  Nothing is escaped, and a name may hold
colons, quotes and whole documents.  Still the three parts can be told apart
(`Graph.fingerprintText_eq_iff`).  The version has no colon and so begins behind the last one.  If
the canonical text could begin behind two colons, then it would end with the canonical text of
another graph, and no such document does (`Json.eq_nil_of_write_eq_append`).
-/

namespace CloudTemplate

universe u

/-- Two ways to cut a list at an item are the same, unless what stands behind one cut ends with the
item and what stands behind the other. -/
lemma eq_of_append_cons_eq {α : Type u} {front front' back back' : List α} {a : α}
    (h : front ++ a :: back = front' ++ a :: back')
    (hback : ∀ middle, back ≠ middle ++ a :: back')
    (hback' : ∀ middle, back' ≠ middle ++ a :: back) : front = front' ∧ back = back' := by
  rcases List.append_eq_append_iff.mp h with ⟨middle, hfront, hrest⟩ | ⟨middle, hfront, hrest⟩
  · cases middle with
    | nil => exact ⟨by rw [hfront, List.append_nil], (List.cons.inj hrest).2⟩
    | cons b middle => exact absurd (List.cons.inj hrest).2 (hback middle)
  · cases middle with
    | nil => exact ⟨by rw [hfront, List.append_nil], (List.cons.inj hrest).2.symm⟩
    | cons b middle => exact absurd (List.cons.inj hrest).2 (hback' middle)

namespace Json

/-- An object with entries is still one in its canonical form, and the first name is one of its
names. -/
lemma exists_canonical_object_eq {entries : Entries Json} (h : entries ≠ []) :
    ∃ key value more, (object entries).canonical = .object ((key, value) :: more) ∧
      key ∈ Entries.keys entries := by
  have hperm := Entries.sorted_perm (canonicalEntries entries)
  rw [canonical]
  cases hsorted : Entries.sorted (canonicalEntries entries) with
  | nil =>
    rw [hsorted, canonicalEntries_eq_map, List.nil_perm, List.map_eq_nil_iff] at hperm
    exact absurd hperm h
  | cons entry more =>
    rw [hsorted] at hperm
    have hkey : entry.1 ∈ Entries.keys (canonicalEntries entries) :=
      List.mem_map_of_mem (hperm.mem_iff.mp List.mem_cons_self)
    rw [keys_canonicalEntries] at hkey
    exact ⟨entry.1, entry.2, more, rfl, hkey⟩

end Json

namespace Graph

/-- The canonical text of a graph begins with a brace and the name of a field. -/
lemma exists_write_canonical_eq (g : Graph) :
    ∃ c rest, g.toJson.canonical.write .compact 0 = '\x7b' :: '"' :: c :: rest ∧
      isMark c = false := by
  obtain ⟨key, value, more, hcanonical, hkey⟩ : ∃ key value more,
      g.toJson.canonical = .object ((key, value) :: more) ∧
        key ∈ ["name", "description", "nodes", "edges"] :=
    Json.exists_canonical_object_eq (List.cons_ne_nil _ _)
  have hname : ∃ c rest, writeText key = '"' :: c :: rest ∧ isMark c = false := by
    simp only [List.mem_cons, List.not_mem_nil, or_false] at hkey
    rcases hkey with rfl | rfl | rfl | rfl <;> exact ⟨_, _, rfl, rfl⟩
  obtain ⟨c, rest, hwrite, hc⟩ := hname
  refine ⟨c, rest ++ ':' :: (value.write .compact 1 ++ Json.writeEntries .compact 0 more), ?_, hc⟩
  rw [hcanonical, Json.write, hwrite]
  simp [Style.compact]

/-- The canonical text of a graph does not end with that of a graph behind something else. -/
lemma canonicalText_ne_append (g g' : Graph) {front : List Char} (hfront : front ≠ []) :
    g.toJson.canonicalText.toList ≠ front ++ g'.toJson.canonicalText.toList := by
  intro h
  simp only [Json.canonicalText, Json.compact, String.toList_ofList] at h
  obtain ⟨entries, hentries⟩ : ∃ entries, g.toJson.canonical = .object entries := ⟨_, rfl⟩
  obtain ⟨c, rest, hwrite, hc⟩ := g'.exists_write_canonical_eq
  rw [hentries] at h
  exact hfront (Json.eq_nil_of_write_eq_append hwrite hc h)

lemma toList_fingerprintText (g : Graph) (engineVersion : String) :
    (g.fingerprintText engineVersion).toList =
      (g.name.toList ++ ':' :: g.toJson.canonicalText.toList) ++ ':' :: engineVersion.toList := by
  simp [fingerprintText]

/-- Under versions without colons, the text behind the fingerprint of a graph tells the name of the
graph, its canonical text and the version. -/
theorem fingerprintText_eq_iff {g g' : Graph} {engineVersion engineVersion' : String}
    (hversion : ':' ∉ engineVersion.toList) (hversion' : ':' ∉ engineVersion'.toList) :
    g.fingerprintText engineVersion = g'.fingerprintText engineVersion' ↔
      g.name = g'.name ∧ g.toJson.canonicalText = g'.toJson.canonicalText ∧
        engineVersion = engineVersion' := by
  constructor
  · intro h
    have hchars := congrArg String.toList h
    rw [toList_fingerprintText, toList_fingerprintText] at hchars
    obtain ⟨hdocument, hengine⟩ := eq_of_append_cons_eq hchars
      (fun middle heq => hversion (by simp [heq])) (fun middle heq => hversion' (by simp [heq]))
    have hcolon : ∀ middle : List Char, middle ++ [':'] ≠ [] := fun middle => by simp
    obtain ⟨hname, hcanonical⟩ := eq_of_append_cons_eq hdocument
      (fun middle heq => g.canonicalText_ne_append g' (hcolon middle) (by simp [heq]))
      (fun middle heq => g'.canonicalText_ne_append g (hcolon middle) (by simp [heq]))
    exact ⟨String.toList_injective hname, String.toList_injective hcanonical,
      String.toList_injective hengine⟩
  · rintro ⟨hname, hcanonical, rfl⟩
    rw [fingerprintText, fingerprintText, hname, hcanonical]

/-- A drawing without nodes whose name goes on like a document. -/
def colonDrawing : Graph := ⟨"shop:\x7b\"description\":null", none, [], []⟩

/-- A drawing without nodes and with a plain name. -/
def plainDrawing : Graph := ⟨"shop", none, [], []⟩

/-- A name with colons is not taken for another one, and two versions are told apart. -/
theorem fingerprintText_eq_iff_colonDrawing :
    ':' ∉ "1.0.0".toList ∧ ':' ∉ "1.1.0".toList ∧
      colonDrawing.fingerprintText "1.0.0" ≠ plainDrawing.fingerprintText "1.0.0" ∧
      colonDrawing.fingerprintText "1.0.0" ≠ colonDrawing.fingerprintText "1.1.0" := by
  have hold : ':' ∉ "1.0.0".toList := by decide
  have hnew : ':' ∉ "1.1.0".toList := by decide
  refine ⟨hold, hnew, fun h => ?_, fun h => ?_⟩
  · have hname := ((fingerprintText_eq_iff hold hold).mp h).1
    exact absurd hname (by decide)
  · have hversion := ((fingerprintText_eq_iff hold hnew).mp h).2.2
    exact absurd hversion (by decide)

end Graph

end CloudTemplate
