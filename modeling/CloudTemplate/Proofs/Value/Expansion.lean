import CloudTemplate.Proofs.Reordering.Entries
import CloudTemplate.Proofs.Value.Reading

/-!
# Attributes told in full

An attribute of a resource can be told in one text, the id and the name of the attribute with a dot
between them, or in two.  When a JSON value is read and written again, every attribute is told in
two, at whatever depth (`Json.Expands`).  Nothing else is different: not the order of names, nor any
object that misses the shape by a little (`toJson_ofJson_iff_expands`).

The proof takes a value one level down.  An object of the one shape is read as an attribute
(`toJson_ofJson_dotted`), and any other is written entry by entry (`toJson_ofJson_object`), also
where it is read as a reference.
-/

namespace CloudTemplate

/-- A JSON value is the same as another but for the attributes that are told in one text: objects
with the one name `Fn::GetAtt` and a text with a dot.  In their place there is the list of two
texts, what stands before the first dot and what stands after it. -/
inductive Json.Expands : Json → Json → Prop
  | null : Expands .null .null
  | bool (value) : Expands (.bool value) (.bool value)
  | number (value) : Expands (.number value) (.number value)
  | string (value) : Expands (.string value) (.string value)
  | array {items others} : List.Forall₂ Expands items others →
      Expands (.array items) (.array others)
  | dotted {target name : String} : '.' ∉ target.toList →
      Expands (.object [(getAttKey, .string (target ++ "." ++ name))])
        (.object [(getAttKey, .array [.string target, .string name])])
  | object {entries others : Entries Json}
      (plain : ∀ text, entries = [(getAttKey, .string text)] → '.' ∉ text.toList) :
      Entries.Alike Expands entries others → Expands (.object entries) (.object others)

namespace Json.Expands

variable {written : Json} {target name : String}

lemma array_iff {items : List Json} :
    Expands (.array items) written ↔
      ∃ others, .array others = written ∧ List.Forall₂ Expands items others := by
  constructor
  · rintro ⟨⟩
    exact ⟨_, rfl, ‹_›⟩
  · rintro ⟨others, rfl, h⟩
    exact .array h

lemma object_iff {entries : Entries Json}
    (plain : ∀ text, entries = [(getAttKey, .string text)] → '.' ∉ text.toList) :
    Expands (.object entries) written ↔
      ∃ others, .object others = written ∧ Entries.Alike Expands entries others := by
  constructor
  · intro h
    cases h with
    | dotted => exact absurd (by simp) (plain _ rfl)
    | object _ h => exact ⟨_, rfl, h⟩
  · rintro ⟨others, rfl, h⟩
    exact .object plain h

/-- A text has only one first dot. -/
lemma dotted_iff (h : '.' ∉ target.toList) :
    Expands (.object [(getAttKey, .string (target ++ "." ++ name))]) written ↔
      .object [(getAttKey, .array [.string target, .string name])] = written := by
  constructor
  · generalize hshort : Json.object [(getAttKey, .string (target ++ "." ++ name))] = short
    intro hexpands
    cases hexpands with
    | @dotted target' name' h' =>
      have htexts : target ++ "." ++ name = target' ++ "." ++ name' := by simpa using hshort
      have hsame : some ((PropertyValue.getAtt target name)) = some (.getAtt target' name') := by
        rw [← PropertyValue.getAttOf?_eq_some_iff.mpr ⟨target, name, rfl, .inr ⟨h, rfl⟩⟩, htexts]
        exact PropertyValue.getAttOf?_eq_some_iff.mpr ⟨target', name', rfl, .inr ⟨h', rfl⟩⟩
      obtain ⟨rfl, rfl⟩ := PropertyValue.getAtt.inj (Option.some.inj hsame)
      rfl
    | object plain =>
      obtain rfl := Json.object.inj hshort
      exact absurd (by simp) (plain _ rfl)
    | _ => exact absurd hshort nofun
  · rintro rfl
    exact .dotted h

end Json.Expands

namespace PropertyValue

/-! ## One level down -/

/-- An attribute that is told in one text is written in two. -/
lemma toJson_ofJson_dotted {target name : String} (h : '.' ∉ target.toList) :
    (ofJson (.object [(getAttKey, .string (target ++ "." ++ name))])).toJson =
      .object [(getAttKey, .array [.string target, .string name])] := by
  have hargument : getAttOf? (.string (target ++ "." ++ name)) = some (.getAtt target name) :=
    getAttOf?_eq_some_iff.mpr ⟨target, name, rfl, .inr ⟨h, rfl⟩⟩
  rw [ofJson, intrinsicOf?_eq_some_iff.mpr (.inr ⟨_, rfl, hargument⟩)]
  rfl

/-- Any other object is written entry by entry. -/
lemma toJson_ofJson_object {entries : Entries Json}
    (plain : ∀ text, entries = [(getAttKey, .string text)] → '.' ∉ text.toList) :
    (ofJson (.object entries)).toJson =
      .object (entries.map fun entry => (entry.1, (ofJson entry.2).toJson)) := by
  rw [ofJson]
  cases hread : intrinsicOf? entries with
  | none =>
    rw [Option.getD_none, toJson, ofEntries_eq_map, toEntries_eq_map, List.map_map]
    rfl
  | some v =>
    rcases intrinsicOf?_eq_some_iff.mp hread with ⟨target, rfl, rfl⟩ | ⟨argument, rfl, hargument⟩
    · rfl
    · obtain ⟨target, name, rfl, rfl | ⟨-, rfl⟩⟩ := getAttOf?_eq_some_iff.mp hargument
      · rfl
      · exact absurd (by simp) (plain _ rfl)

/-! ## All levels -/

lemma exists_eq_append_dot {text : String} (h : '.' ∈ text.toList) :
    ∃ target name : String, '.' ∉ target.toList ∧ text = target ++ "." ++ name := by
  obtain ⟨target, name, hsplit, hnot⟩ := List.eq_append_cons_of_mem h
  refine ⟨String.ofList target, String.ofList name, by rwa [String.toList_ofList], ?_⟩
  rw [← String.toList_inj, hsplit]
  simp

lemma toJson_ofJson_eq_iff {j written : Json} :
    (ofJson j).toJson = written ↔ j.Expands written := by
  induction j generalizing written with
  | null | bool value | number value | string value =>
    constructor
    · rintro rfl
      constructor
    · rintro ⟨⟩
      rfl
  | array items ih =>
    have hitems := map_eq_iff_forall₂ fun item hitem _ => ih item hitem
    rw [Json.Expands.array_iff, ofJson, toJson, ofItems_eq_map, toItems_eq_map, List.map_map]
    constructor
    · rintro rfl
      exact ⟨_, rfl, (hitems _).mp rfl⟩
    · rintro ⟨others, rfl, h⟩
      exact congrArg Json.array ((hitems others).mpr h)
  | object entries ih =>
    by_cases plain : ∀ text, entries = [(getAttKey, .string text)] → '.' ∉ text.toList
    · have hentries := Entries.map_eq_iff_alike fun name value hmem _ => ih name value hmem
      rw [Json.Expands.object_iff plain, toJson_ofJson_object plain]
      constructor
      · rintro rfl
        exact ⟨_, rfl, (hentries _).mp rfl⟩
      · rintro ⟨others, rfl, h⟩
        exact congrArg Json.object ((hentries others).mpr h)
    · simp only [not_forall, not_not] at plain
      obtain ⟨text, rfl, hdot⟩ := plain
      obtain ⟨target, name, hnot, rfl⟩ := exists_eq_append_dot hdot
      rw [toJson_ofJson_dotted hnot, Json.Expands.dotted_iff hnot]

/-- What is written after a JSON value was read is that value with its attributes told in full, and
it is read as the same again. -/
theorem toJson_ofJson_iff_expands (j : Json) :
    (∀ written, (ofJson j).toJson = written ↔ j.Expands written) ∧
      ofJson (ofJson j).toJson = ofJson j :=
  ⟨fun _ => toJson_ofJson_eq_iff, ofJson_toJson (unambiguous_ofJson j)⟩

/-- The text is split at the first of its dots.  Three parts, or another name, are no attribute, but
what stands among them may be. -/
example : (ofJson (.object [
      (getAttKey, .object [(getAttKey, .string "db.Endpoint.Port")]),
      ("Beside", .array [.object [(getAttKey, .strings ["a", "b", "c"])],
        .object [(getAttKey, .string ".")], .object [(getAttKey, .string "plain")]])])).toJson =
    .object [
      (getAttKey, .object [(getAttKey, .strings ["db", "Endpoint.Port"])]),
      ("Beside", .array [.object [(getAttKey, .strings ["a", "b", "c"])],
        .object [(getAttKey, .strings ["", ""])], .object [(getAttKey, .string "plain")]])] := by
  decide +kernel

end PropertyValue

end CloudTemplate
