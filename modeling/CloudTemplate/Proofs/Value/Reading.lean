import CloudTemplate.Proofs.Text.Split
import CloudTemplate.Proofs.Value.Basic

/-!
# Reading back what was written

References are written as objects with one name, and so is a map with one name.  A map that would be
read as a reference (`PropertyValue.LooksLikeReference`) does not survive being written and read;
every value without such a map inside does (`ofJson_toJson`).  Reading never makes one
(`unambiguous_ofJson`), whatever the JSON.
-/

namespace CloudTemplate

namespace PropertyValue

/-- A map that is written as references are. -/
inductive LooksLikeReference : PropertyValue → Prop
  /-- The one name `Ref` with a text. -/
  | ref (target) : LooksLikeReference (.map [(refKey, .string target)])
  /-- The one name `Fn::GetAtt` with two texts. -/
  | getAtt (target name) :
      LooksLikeReference (.map [(getAttKey, .list [.string target, .string name])])
  /-- The one name `Fn::GetAtt` with a text that has a dot. -/
  | dotted {text : String} : '.' ∈ text.toList →
      LooksLikeReference (.map [(getAttKey, .string text)])

/-- No map inside a value looks like a reference. -/
def Unambiguous (v : PropertyValue) : Prop := ∀ w, Inside w v → ¬ w.LooksLikeReference

lemma unambiguous_list_iff {items : List PropertyValue} :
    Unambiguous (.list items) ↔ ∀ item ∈ items, item.Unambiguous := by
  unfold Unambiguous
  rw [forall_inside_list_iff]
  exact and_iff_right nofun

lemma unambiguous_map_iff {entries : Entries PropertyValue} :
    Unambiguous (.map entries) ↔ ¬ LooksLikeReference (.map entries) ∧
      ∀ name value, (name, value) ∈ entries → value.Unambiguous :=
  forall_inside_map_iff

/-! ## References -/

/-- An attribute is told by a list of two texts, or by a text that is cut at its first dot. -/
lemma getAttOf?_eq_some_iff {j : Json} {v : PropertyValue} : getAttOf? j = some v ↔
    ∃ target name, v = .getAtt target name ∧ (j = .strings [target, name] ∨
      '.' ∉ target.toList ∧ j = .string (target ++ "." ++ name)) := by
  constructor
  · intro h
    unfold getAttOf? at h
    split at h
    · next target name => exact ⟨target, name, (Option.some.inj h).symm, .inl rfl⟩
    · next dotted =>
      obtain ⟨⟨target, name⟩, hsplit, rfl⟩ := Option.map_eq_some_iff.mp h
      obtain ⟨htext, hnot⟩ := splitAtFirst_eq_some_iff.mp hsplit
      refine ⟨_, _, rfl, .inr ⟨by rwa [String.toList_ofList], congrArg Json.string ?_⟩⟩
      rw [← String.toList_inj, htext]
      simp
    · exact absurd h nofun
  · rintro ⟨target, name, rfl, rfl | ⟨hnot, rfl⟩⟩
    · rfl
    · have hsplit : splitAtFirst '.' (target ++ "." ++ name).toList =
          some (target.toList, name.toList) := by
        rw [splitAtFirst_eq_some_iff]
        exact ⟨by simp, hnot⟩
      simp only [getAttOf?, hsplit, Option.map_some, String.ofList_toList]

/-- An object stands for a reference or for an attribute. -/
lemma intrinsicOf?_eq_some_iff {entries : Entries Json} {v : PropertyValue} :
    intrinsicOf? entries = some v ↔
      (∃ target, entries = [(refKey, .string target)] ∧ v = .ref target) ∨
        ∃ argument, entries = [(getAttKey, argument)] ∧ getAttOf? argument = some v := by
  constructor
  · intro h
    unfold intrinsicOf? at h
    split at h
    · next key value =>
      split at h
      · next hkey =>
        split at h
        · next target => exact .inl ⟨target, by rw [hkey], (Option.some.inj h).symm⟩
        · exact absurd h nofun
      · split at h
        · next hkey => exact .inr ⟨value, by rw [hkey], h⟩
        · exact absurd h nofun
    · exact absurd h nofun
  · rintro (⟨target, rfl, rfl⟩ | ⟨argument, rfl, h⟩)
    · rfl
    · exact h

lemma getAttOf?_toJson_eq_none {v : PropertyValue}
    (h : ¬ LooksLikeReference (.map [(getAttKey, v)])) : getAttOf? v.toJson = none := by
  cases v with
  | string text =>
    have hdot : '.' ∉ text.toList := fun hmem => h (.dotted hmem)
    simp [toJson, getAttOf?, splitAtFirst_eq_none_iff, hdot]
  | list items =>
    rcases items with _ | ⟨first, _ | ⟨second, _ | ⟨third, more⟩⟩⟩
    · simp [toJson, toItems, getAttOf?]
    · simp [toJson, toItems, getAttOf?]
    · cases first with
      | string target =>
        cases second with
        | string name => exact absurd (.getAtt target name) h
        | _ => rfl
      | _ => rfl
    · simp [toJson, toItems, getAttOf?]
  | _ => simp [toJson, getAttOf?]

/-- The written form of a map is read as a reference only if the map looks like one. -/
lemma intrinsicOf?_toEntries_eq_none {entries : Entries PropertyValue}
    (h : ¬ LooksLikeReference (.map entries)) : intrinsicOf? (toEntries entries) = none := by
  match entries with
  | [] | _ :: _ :: _ => simp [toEntries, intrinsicOf?]
  | [(key, v)] =>
    simp only [toEntries, intrinsicOf?]
    split
    · next hkey =>
      subst hkey
      cases v with
      | string target => exact absurd (.ref target) h
      | _ => simp [toJson]
    · split
      · next hkey =>
        subst hkey
        exact getAttOf?_toJson_eq_none h
      · rfl

/-- What is written of an unambiguous value is read back. -/
lemma ofJson_toJson {v : PropertyValue} (h : v.Unambiguous) : ofJson v.toJson = v := by
  induction v with
  | null | bool value | number value | string value => rfl
  | ref target => rfl
  | getAtt target name => rfl
  | list items ih =>
    have hitems := unambiguous_list_iff.mp h
    have hread : items.map (ofJson ∘ toJson) = items.map id :=
      List.map_congr_left fun item hitem => ih item hitem (hitems item hitem)
    rw [toJson, ofJson, toItems_eq_map, ofItems_eq_map, List.map_map, hread, List.map_id]
  | map entries ih =>
    obtain ⟨hlook, hvalues⟩ := unambiguous_map_iff.mp h
    have hread : ofEntries (toEntries entries) = entries.map id := by
      rw [toEntries_eq_map, ofEntries_eq_map, List.map_map]
      apply List.map_congr_left
      rintro ⟨name, value⟩ hmem
      show (name, ofJson value.toJson) = (name, value)
      rw [ih name value hmem (hvalues name value hmem)]
    rw [toJson, ofJson, intrinsicOf?_toEntries_eq_none hlook, Option.getD_none, hread, List.map_id]

/-! ## What reading makes -/

/-- An object is read as a reference or as a map. -/
lemma ofJson_object_cases (entries : Entries Json) :
    (∃ target, ofJson (.object entries) = .ref target) ∨
      (∃ target name, ofJson (.object entries) = .getAtt target name) ∨
      intrinsicOf? entries = none ∧ ofJson (.object entries) = .map (ofEntries entries) := by
  rw [ofJson]
  cases hintrinsic : intrinsicOf? entries with
  | none => exact .inr (.inr ⟨rfl, rfl⟩)
  | some v =>
    rw [Option.getD_some]
    rcases intrinsicOf?_eq_some_iff.mp hintrinsic with ⟨target, -, rfl⟩ | ⟨argument, -, hargument⟩
    · exact .inl ⟨target, rfl⟩
    · obtain ⟨target, name, rfl, -⟩ := getAttOf?_eq_some_iff.mp hargument
      exact .inr (.inl ⟨target, name, rfl⟩)

lemma eq_string_of_ofJson {j : Json} {text : String} (h : ofJson j = .string text) :
    j = .string text := by
  cases j with
  | object entries =>
    rcases ofJson_object_cases entries with ⟨_, hread⟩ | ⟨_, _, hread⟩ | ⟨-, hread⟩ <;>
      exact absurd (hread.symm.trans h) nofun
  | string value =>
    rw [ofJson] at h
    rw [PropertyValue.string.inj h]
  | _ => exact absurd h (by simp [ofJson])

lemma eq_array_of_ofJson {j : Json} {items : List PropertyValue} (h : ofJson j = .list items) :
    ∃ js, j = .array js ∧ ofItems js = items := by
  cases j with
  | object entries =>
    rcases ofJson_object_cases entries with ⟨_, hread⟩ | ⟨_, _, hread⟩ | ⟨-, hread⟩ <;>
      exact absurd (hread.symm.trans h) nofun
  | array js => exact ⟨js, rfl, by simpa [ofJson] using h⟩
  | _ => exact absurd h (by simp [ofJson])

/-- What is read as a map does not look like a reference. -/
lemma not_looksLikeReference_ofEntries {entries : Entries Json}
    (h : intrinsicOf? entries = none) : ¬ LooksLikeReference (.map (ofEntries entries)) := by
  have hsingle : ∀ key v, ofEntries entries = [(key, v)] →
      ∃ j, entries = [(key, j)] ∧ ofJson j = v := by
    intro key v hentries
    rcases entries with _ | ⟨⟨key', j⟩, _ | ⟨second, more⟩⟩
    · simp [ofEntries] at hentries
    · simp only [ofEntries, List.cons.injEq, Prod.mk.injEq, and_true] at hentries
      exact ⟨j, by rw [hentries.1], hentries.2⟩
    · simp [ofEntries] at hentries
  intro hlook
  generalize hentries : ofEntries entries = written at hlook
  cases hlook with
  | ref target =>
    obtain ⟨j, rfl, hj⟩ := hsingle _ _ hentries
    rw [eq_string_of_ofJson hj] at h
    cases h
  | getAtt target name =>
    obtain ⟨j, rfl, hj⟩ := hsingle _ _ hentries
    obtain ⟨js, rfl, hjs⟩ := eq_array_of_ofJson hj
    rcases js with _ | ⟨first, _ | ⟨second, _ | ⟨third, more⟩⟩⟩
    · simp [ofItems] at hjs
    · simp [ofItems] at hjs
    · simp only [ofItems, List.cons.injEq, and_true] at hjs
      rw [eq_string_of_ofJson hjs.1, eq_string_of_ofJson hjs.2] at h
      cases h
    · simp [ofItems] at hjs
  | dotted hdot =>
    obtain ⟨j, rfl, hj⟩ := hsingle _ _ hentries
    rw [eq_string_of_ofJson hj] at h
    have hsplit : splitAtFirst '.' _ = none := Option.map_eq_none_iff.mp h
    exact splitAtFirst_eq_none_iff.mp hsplit hdot

lemma unambiguous_of_atom {v : PropertyValue} (hitems : ∀ items, v ≠ .list items)
    (hentries : ∀ entries, v ≠ .map entries) : v.Unambiguous := by
  intro w hinside hlook
  cases hinside with
  | self =>
    cases hlook <;> exact hentries _ rfl
  | item => exact hitems _ rfl
  | value => exact hentries _ rfl

/-- What holds of every value read in a list holds of the items that are made of them. -/
lemma forall_mem_ofItems {P : PropertyValue → Prop} {items : List Json}
    (h : ∀ item ∈ items, P (ofJson item)) : ∀ v ∈ ofItems items, P v := by
  rw [ofItems_eq_map]
  exact List.forall_mem_map.mpr h

lemma forall_mem_ofEntries {P : PropertyValue → Prop} {entries : Entries Json}
    (h : ∀ name value, (name, value) ∈ entries → P (ofJson value)) :
    ∀ name v, (name, v) ∈ ofEntries entries → P v := by
  intro name v hmem
  rw [ofEntries_eq_map] at hmem
  obtain ⟨⟨name', value⟩, hentry, hv⟩ := List.mem_map.mp hmem
  rw [← (Prod.mk.inj hv).2]
  exact h name' value hentry

/-- Whatever is read is unambiguous. -/
lemma unambiguous_ofJson (j : Json) : (ofJson j).Unambiguous := by
  induction j with
  | null | bool value | number value | string value => exact unambiguous_of_atom nofun nofun
  | array items ih =>
    rw [ofJson, unambiguous_list_iff]
    exact forall_mem_ofItems ih
  | object entries ih =>
    rcases ofJson_object_cases entries with ⟨_, hread⟩ | ⟨_, _, hread⟩ | ⟨hplain, hread⟩
    · rw [hread]
      exact unambiguous_of_atom nofun nofun
    · rw [hread]
      exact unambiguous_of_atom nofun nofun
    · rw [hread, unambiguous_map_iff]
      exact ⟨not_looksLikeReference_ofEntries hplain, forall_mem_ofEntries ih⟩

/-- A value survives being written and read just if it is unambiguous. -/
lemma ofJson_toJson_iff {v : PropertyValue} : ofJson v.toJson = v ↔ v.Unambiguous :=
  ⟨fun h => h ▸ unambiguous_ofJson v.toJson, ofJson_toJson⟩

/-- What is read keeps names distinct. -/
lemma wellNamed_ofJson {j : Json} (h : j.WellNamed) : (ofJson j).WellNamed := by
  induction h with
  | null | bool value | number value | string value => simp [ofJson]
  | @array items h ih =>
    rw [ofJson, wellNamed_list_iff]
    exact forall_mem_ofItems ih
  | @object entries hnodup h ih =>
    rcases ofJson_object_cases entries with ⟨_, hread⟩ | ⟨_, _, hread⟩ | ⟨-, hread⟩
    · simp [hread]
    · simp [hread]
    · rw [hread, wellNamed_map_iff, keys_ofEntries]
      exact ⟨hnodup, forall_mem_ofEntries ih⟩

end PropertyValue

end CloudTemplate
