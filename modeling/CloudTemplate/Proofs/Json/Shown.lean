import CloudTemplate.Json.Outline
import CloudTemplate.Proofs.Json.Lexemes
import CloudTemplate.Proofs.Table

/-!
# Outlines that show a value

An outline shows a value if it has the shape of the value, no faults, and no bracket inside too
many others (`Outline.Shows`); where its parts stand in a text does not matter.  This is where
writing and reading meet.  The lexemes of a value are read into an outline of its shape, however
deep it is (`Outline.readsBack`), and so is its text (`Outline.exists_traces_ofText_pretty`); as
long as it has no more levels than a reader enters, that outline shows it
(`Outline.shows_ofText_pretty`).  What a reader makes of an outline that shows a value can then be
said without tokens: read as plain JSON it is the value itself (`Outline.Shows.value_eq`), provided
that no object has a name twice.  In turn, no object that is read has one
(`Outline.wellNamed_of_value`).
-/

namespace CloudTemplate

mutual

/-- An outline shows a value. -/
inductive Outline.Shows : Outline → Json → Prop
  | null (start stop : Nat) : Outline.Shows (.null start stop) .null
  | bool (start stop : Nat) (value : Bool) : Outline.Shows (.bool start stop value) (.bool value)
  | number (start stop : Nat) (value : Number) :
      Outline.Shows (.number start stop (.ok value)) (.number value)
  | text (start stop : Nat) (value : String) :
      Outline.Shows (.text start stop (.ok value)) (.string value)
  | array (start : Nat) {depth : Nat} {items : OutlineItems} {js : List Json} :
      depth < levelLimit → OutlineItems.Shows items js →
        Outline.Shows (.array start depth items) (.array js)
  | object (start : Nat) {depth : Nat} {members : OutlineMembers} {entries : Entries Json} :
      depth < levelLimit → OutlineMembers.Shows members entries →
        Outline.Shows (.object start depth members) (.object entries)

/-- The rest of an array shows some items. -/
inductive OutlineItems.Shows : OutlineItems → List Json → Prop
  | close (stop : Nat) : OutlineItems.Shows (.close stop) []
  | item (next : Nat) {value : Outline} {more : OutlineItems} {j : Json} {js : List Json} :
      Outline.Shows value j → OutlineItems.Shows more js →
        OutlineItems.Shows (.item value next more) (j :: js)

/-- The rest of an object shows some entries. -/
inductive OutlineMembers.Shows : OutlineMembers → Entries Json → Prop
  | close (stop : Nat) : OutlineMembers.Shows (.close stop) []
  | member (key : String) (afterKey next : Nat) {value : Outline} {more : OutlineMembers} {j : Json}
      {entries : Entries Json} : Outline.Shows value j → OutlineMembers.Shows more entries →
        OutlineMembers.Shows (.member (.ok key) afterKey value next more) ((key, j) :: entries)

end

mutual

/-- An outline has the shape of a value and no faults; its brackets are counted from a depth, and
there may be too many of them for a reader. -/
inductive Outline.Traces : Nat → Outline → Json → Prop
  | null {depth : Nat} (start stop : Nat) : Outline.Traces depth (.null start stop) .null
  | bool {depth : Nat} (start stop : Nat) (value : Bool) :
      Outline.Traces depth (.bool start stop value) (.bool value)
  | number {depth : Nat} (start stop : Nat) (value : Number) :
      Outline.Traces depth (.number start stop (.ok value)) (.number value)
  | text {depth : Nat} (start stop : Nat) (value : String) :
      Outline.Traces depth (.text start stop (.ok value)) (.string value)
  | array (start : Nat) {depth : Nat} {items : OutlineItems} {js : List Json} :
      OutlineItems.Traces (depth + 1) items js →
        Outline.Traces depth (.array start depth items) (.array js)
  | object (start : Nat) {depth : Nat} {members : OutlineMembers} {entries : Entries Json} :
      OutlineMembers.Traces (depth + 1) members entries →
        Outline.Traces depth (.object start depth members) (.object entries)

/-- The rest of an array has the shape of some items. -/
inductive OutlineItems.Traces : Nat → OutlineItems → List Json → Prop
  | close {depth : Nat} (stop : Nat) : OutlineItems.Traces depth (.close stop) []
  | item {depth : Nat} (next : Nat) {value : Outline} {more : OutlineItems} {j : Json}
      {js : List Json} : Outline.Traces depth value j → OutlineItems.Traces depth more js →
        OutlineItems.Traces depth (.item value next more) (j :: js)

/-- The rest of an object has the shape of some entries. -/
inductive OutlineMembers.Traces : Nat → OutlineMembers → Entries Json → Prop
  | close {depth : Nat} (stop : Nat) : OutlineMembers.Traces depth (.close stop) []
  | member {depth : Nat} (key : String) (afterKey next : Nat) {value : Outline}
      {more : OutlineMembers} {j : Json} {entries : Entries Json} : Outline.Traces depth value j →
        OutlineMembers.Traces depth more entries →
          OutlineMembers.Traces depth (.member (.ok key) afterKey value next more)
            ((key, j) :: entries)

end

mutual

/-- An outline of the shape of a value shows it, unless it has more levels than a reader enters. -/
lemma Outline.Traces.shows : ∀ {depth : Nat} {o : Outline} {j : Json}, o.Traces depth j →
    depth + j.levels ≤ levelLimit → o.Shows j
  | _, _, _, .null start stop, _ => .null start stop
  | _, _, _, .bool start stop value, _ => .bool start stop value
  | _, _, _, .number start stop value, _ => .number start stop value
  | _, _, _, .text start stop value, _ => .text start stop value
  | depth, _, _, .array start hitems, hlevels => by
    rw [Json.levels] at hlevels
    exact .array start (by omega) (hitems.shows (by omega))
  | depth, _, _, .object start hmembers, hlevels => by
    rw [Json.levels] at hlevels
    exact .object start (by omega) (hmembers.shows (by omega))

lemma OutlineItems.Traces.shows : ∀ {depth : Nat} {items : OutlineItems} {js : List Json},
    items.Traces depth js → depth + Json.levelsOfItems js ≤ levelLimit → items.Shows js
  | _, _, _, .close stop, _ => .close stop
  | _, _, _, .item next hvalue hmore, hlevels => by
    rw [Json.levelsOfItems] at hlevels
    exact .item next (hvalue.shows (by omega)) (hmore.shows (by omega))

lemma OutlineMembers.Traces.shows : ∀ {depth : Nat} {members : OutlineMembers}
    {entries : Entries Json}, members.Traces depth entries →
      depth + Json.levelsOfEntries entries ≤ levelLimit → members.Shows entries
  | _, _, _, .close stop, _ => .close stop
  | _, _, _, .member key afterKey next hvalue hmore, hlevels => by
    rw [Json.levelsOfEntries] at hlevels
    exact .member key afterKey next (hvalue.shows (by omega)) (hmore.shows (by omega))

end

mutual

/-- An outline has the shape of one value at most. -/
lemma Outline.Traces.unique : ∀ {depth : Nat} {o : Outline} {j k : Json}, o.Traces depth j →
    o.Traces depth k → j = k
  | _, _, _, _, .null _ _, .null _ _ => rfl
  | _, _, _, _, .bool _ _ _, .bool _ _ _ => rfl
  | _, _, _, _, .number _ _ _, .number _ _ _ => rfl
  | _, _, _, _, .text _ _ _, .text _ _ _ => rfl
  | _, _, _, _, .array _ hitems, .array _ hothers => congrArg _ (hitems.unique hothers)
  | _, _, _, _, .object _ hmembers, .object _ hothers => congrArg _ (hmembers.unique hothers)

lemma OutlineItems.Traces.unique : ∀ {depth : Nat} {items : OutlineItems} {js ks : List Json},
    items.Traces depth js → items.Traces depth ks → js = ks
  | _, _, _, _, .close _, .close _ => rfl
  | _, _, _, _, .item _ hvalue hmore, .item _ hvalue' hmore' => by
    rw [hvalue.unique hvalue', hmore.unique hmore']

lemma OutlineMembers.Traces.unique : ∀ {depth : Nat} {members : OutlineMembers}
    {entries others : Entries Json}, members.Traces depth entries →
      members.Traces depth others → entries = others
  | _, _, _, _, .close _, .close _ => rfl
  | _, _, _, _, .member _ _ _ hvalue hmore, .member _ _ _ hvalue' hmore' => by
    rw [hvalue.unique hvalue', hmore.unique hmore']

end

/-! ## From lexemes to an outline -/

namespace Outline

variable {length depth : Nat} {ts after : List Token}

lemma readItem_last {value : Outline} {start stop : Nat}
    {h : (⟨start, stop, .closeList⟩ :: after : List Token).length < ts.length}
    (hread : readValue length depth ts = (value, .ok ⟨⟨start, stop, .closeList⟩ :: after, h⟩)) :
    ∃ h', readItem length depth ts = (.item value start (.close stop), .ok ⟨after, h'⟩) := by
  rw [readItem, hread]
  exact ⟨_, rfl⟩

lemma readItem_next {value : Outline} {start stop : Nat} {token : Token} {rest : List Token}
    {h : (⟨start, stop, .comma⟩ :: token :: rest : List Token).length < ts.length}
    (hread : readValue length depth ts = (value, .ok ⟨⟨start, stop, .comma⟩ :: token :: rest, h⟩))
    (hitem : token.lexeme ≠ .closeList) {more : OutlineItems}
    {hmore : after.length < (token :: rest).length}
    (hrest : readItem length depth (token :: rest) = (more, .ok ⟨after, hmore⟩)) :
    ∃ h', readItem length depth ts = (.item value start more, .ok ⟨after, h'⟩) := by
  have hshorter : after.length < ts.length := hmore.trans ((Nat.lt_succ_self _).trans h)
  obtain ⟨start', stop', lexeme⟩ := token
  cases lexeme with
  | closeList => exact absurd rfl hitem
  | _ =>
    rw [readItem, hread]
    simp only [hrest]
    exact ⟨hshorter, rfl⟩

lemma readItems_eq_readItem {token : Token} (h : token.lexeme ≠ .closeList) (rest : List Token) :
    readItems length depth (token :: rest) = readItem length depth (token :: rest) := by
  obtain ⟨start, stop, lexeme⟩ := token
  rw [readItems]
  exact h

variable {key : Except Problem String} {keyStart keyStop colon colonStop : Nat}

lemma readMember_last {value : Outline} {start stop : Nat}
    {h : (⟨start, stop, .closeObject⟩ :: after : List Token).length < ts.length}
    (hread : readValue length depth ts = (value, .ok ⟨⟨start, stop, .closeObject⟩ :: after, h⟩))
    (afterComma : Bool) :
    ∃ h', readMember length depth afterComma
        (⟨keyStart, keyStop, .text key⟩ :: ⟨colon, colonStop, .colon⟩ :: ts) =
      (.member key colon value start (.close stop), .ok ⟨after, h'⟩) := by
  rw [readMember, hread]
  exact ⟨_, rfl⟩

lemma readMember_next {value : Outline} {start stop : Nat} {rest : List Token}
    {h : (⟨start, stop, .comma⟩ :: rest : List Token).length < ts.length}
    (hread : readValue length depth ts = (value, .ok ⟨⟨start, stop, .comma⟩ :: rest, h⟩))
    {more : OutlineMembers} {hmore : after.length < rest.length}
    (hrest : readMember length depth true rest = (more, .ok ⟨after, hmore⟩)) (afterComma : Bool) :
    ∃ h', readMember length depth afterComma
        (⟨keyStart, keyStop, .text key⟩ :: ⟨colon, colonStop, .colon⟩ :: ts) =
      (.member key colon value start more, .ok ⟨after, h'⟩) := by
  have hshorter : after.length < ts.length + 1 + 1 := by
    simp only [List.length_cons] at h
    omega
  rw [readMember, hread]
  simp only [hrest]
  exact ⟨hshorter, rfl⟩

/-! ## Lexemes of a value -/

/-- What the tokens of a value are read into has the shape of the value. -/
def ReadsBack (length depth : Nat) (j : Json) : Prop :=
  ∀ front after : List Token, front.map Token.lexeme = j.lexemes →
    ∃ o h, readValue length depth (front ++ after) = (o, .ok ⟨after, h⟩) ∧ o.Traces depth j

lemma exists_lexemes_eq_cons (j : Json) :
    ∃ lexeme more, j.lexemes = lexeme :: more ∧ lexeme ≠ .closeList := by
  rcases j with _ | value | value | value | (_ | ⟨item, more⟩) | (_ | ⟨⟨key, value⟩, more⟩) <;>
    refine ⟨_, _, by rw [Json.lexemes], ?_⟩ <;> exact nofun

lemma exists_front_eq_cons {j : Json} {front : List Token} {lexemes : List Lexeme}
    (h : front.map Token.lexeme = j.lexemes ++ lexemes) :
    ∃ token more, front = token :: more ∧ token.lexeme ≠ .closeList := by
  obtain ⟨lexeme, more, hcons, hne⟩ := exists_lexemes_eq_cons j
  rw [hcons, List.cons_append] at h
  obtain ⟨token, rest, rfl, rfl, -⟩ := List.map_eq_cons_iff.mp h
  exact ⟨token, rest, rfl, hne⟩

lemma readItem_of_lexemes {item : Json} {more : List Json} (hitem : ReadsBack length depth item)
    (hmore : ∀ j ∈ more, ReadsBack length depth j) {front : List Token}
    (hfront : front.map Token.lexeme = item.lexemes ++ Json.lexemesOfItems more)
    (after : List Token) :
    ∃ items h, readItem length depth (front ++ after) = (items, .ok ⟨after, h⟩) ∧
      items.Traces depth (item :: more) := by
  -- The token behind an item tells whether there is another one.
  induction more generalizing item front with
  | nil =>
    obtain ⟨first, rest, rfl, hfirst, hrest⟩ := List.map_eq_append_iff.mp hfront
    obtain ⟨⟨start, stop, _⟩, rfl, rfl⟩ := List.map_eq_singleton_iff.mp hrest
    obtain ⟨o, h, hread, htraces⟩ := hitem first (⟨start, stop, .closeList⟩ :: after) hfirst
    obtain ⟨h', hlast⟩ := readItem_last hread
    rw [List.append_assoc]
    exact ⟨_, h', hlast, .item _ htraces (.close _)⟩
  | cons next more ih =>
    obtain ⟨hnext, hmore⟩ := List.forall_mem_cons.mp hmore
    obtain ⟨first, rest, rfl, hfirst, hrest⟩ := List.map_eq_append_iff.mp hfront
    obtain ⟨⟨start, stop, _⟩, tail, rfl, rfl, htail⟩ := List.map_eq_cons_iff.mp hrest
    obtain ⟨token, tail, rfl, htoken⟩ := exists_front_eq_cons htail
    obtain ⟨o, h, hread, htraces⟩ :=
      hitem first (⟨start, stop, .comma⟩ :: token :: (tail ++ after)) hfirst
    obtain ⟨items, hlt, hitems, hitemsTrace⟩ := ih hnext hmore htail
    obtain ⟨h', hstep⟩ := readItem_next hread htoken hitems
    rw [List.append_assoc]
    exact ⟨_, h', hstep, .item _ htraces hitemsTrace⟩

lemma exists_member_front {key : String} {front : List Token} {lexemes : List Lexeme}
    (h : front.map Token.lexeme = .text (.ok key) :: .colon :: lexemes) :
    ∃ keyStart keyStop colon colonStop tail,
      front = ⟨keyStart, keyStop, .text (.ok key)⟩ :: ⟨colon, colonStop, .colon⟩ :: tail ∧
        tail.map Token.lexeme = lexemes := by
  obtain ⟨⟨keyStart, keyStop, _⟩, tail, rfl, rfl, htail⟩ := List.map_eq_cons_iff.mp h
  obtain ⟨⟨colon, colonStop, _⟩, tail, rfl, rfl, hmore⟩ := List.map_eq_cons_iff.mp htail
  exact ⟨keyStart, keyStop, colon, colonStop, tail, rfl, hmore⟩

lemma readMember_of_lexemes {key : String} {value : Json} {more : Entries Json}
    (hvalue : ReadsBack length depth value)
    (hmore : ∀ name j, (name, j) ∈ more → ReadsBack length depth j) {front : List Token}
    (hfront : front.map Token.lexeme =
      .text (.ok key) :: .colon :: (value.lexemes ++ Json.lexemesOfEntries more))
    (afterComma : Bool) (after : List Token) :
    ∃ members h, readMember length depth afterComma (front ++ after) =
      (members, .ok ⟨after, h⟩) ∧ members.Traces depth ((key, value) :: more) := by
  -- As for items, with a name and a colon in front of each value.
  induction more generalizing key value front afterComma with
  | nil =>
    obtain ⟨keyStart, keyStop, colon, colonStop, tail, rfl, htail⟩ := exists_member_front hfront
    obtain ⟨first, rest, rfl, hfirst, hrest⟩ := List.map_eq_append_iff.mp htail
    obtain ⟨⟨start, stop, _⟩, rfl, rfl⟩ := List.map_eq_singleton_iff.mp hrest
    obtain ⟨o, h, hread, htraces⟩ := hvalue first (⟨start, stop, .closeObject⟩ :: after) hfirst
    obtain ⟨h', hlast⟩ := readMember_last hread afterComma
    rw [List.cons_append, List.cons_append, List.append_assoc]
    exact ⟨_, h', hlast, .member _ _ _ htraces (.close _)⟩
  | cons entry more ih =>
    obtain ⟨key', value'⟩ := entry
    obtain ⟨hnextValue, hmore⟩ := Entries.forall_mem_cons_iff.mp hmore
    obtain ⟨keyStart, keyStop, colon, colonStop, tail, rfl, htail⟩ := exists_member_front hfront
    obtain ⟨first, rest, rfl, hfirst, hrest⟩ := List.map_eq_append_iff.mp htail
    obtain ⟨⟨start, stop, _⟩, next, rfl, rfl, hnext⟩ := List.map_eq_cons_iff.mp hrest
    obtain ⟨members, hlt, hmembers, hmembersTrace⟩ := ih hnextValue hmore hnext true
    obtain ⟨o, h, hread, htraces⟩ := hvalue first (⟨start, stop, .comma⟩ :: (next ++ after)) hfirst
    obtain ⟨h', hstep⟩ := readMember_next hread hmembers afterComma
    rw [List.cons_append, List.cons_append, List.append_assoc]
    exact ⟨_, h', hstep, .member _ _ _ htraces hmembersTrace⟩

/-- A value of one token is read back. -/
lemma readsBack_of_token {j : Json} {lexeme : Lexeme} (hj : j.lexemes = [lexeme])
    (hlist : lexeme ≠ .openList) (hobject : lexeme ≠ .openObject)
    (htraces : ∀ start stop, (ofToken ⟨start, stop, lexeme⟩).Traces depth j) :
    ReadsBack length depth j := by
  intro front after hfront
  rw [hj] at hfront
  obtain ⟨⟨start, stop, _⟩, rfl, rfl⟩ := List.map_eq_singleton_iff.mp hfront
  rw [List.singleton_append]
  refine ⟨_, Nat.lt_succ_self _, ?_, htraces start stop⟩
  rw [readValue]
  · have hsound := htraces start stop
    dsimp only
    split
    · next heq =>
      rw [heq] at hsound
      cases hsound
    · rfl
  · exact hlist
  · exact hobject

lemma readsBack_array {items : List Json}
    (h : ∀ item ∈ items, ReadsBack length (depth + 1) item) :
    ReadsBack length depth (.array items) := by
  intro front after hfront
  cases items with
  | nil =>
    rw [Json.lexemes] at hfront
    obtain ⟨⟨start, _, _⟩, tail, rfl, rfl, htail⟩ := List.map_eq_cons_iff.mp hfront
    obtain ⟨⟨_, stop, _⟩, rfl, rfl⟩ := List.map_eq_singleton_iff.mp htail
    rw [List.cons_append, List.singleton_append, readValue, readItems]
    exact ⟨_, _, rfl, .array start (.close stop)⟩
  | cons item more =>
    rw [Json.lexemes] at hfront
    obtain ⟨hitem, hmore⟩ := List.forall_mem_cons.mp h
    obtain ⟨⟨start, _, _⟩, tail, rfl, rfl, htail⟩ := List.map_eq_cons_iff.mp hfront
    obtain ⟨read, hlt, hread, htraces⟩ := readItem_of_lexemes hitem hmore htail after
    obtain ⟨token, rest, rfl, htoken⟩ := exists_front_eq_cons htail
    rw [List.cons_append, readValue, List.cons_append, readItems_eq_readItem htoken,
      ← List.cons_append, hread]
    exact ⟨_, _, rfl, .array start htraces⟩

lemma readsBack_object {entries : Entries Json}
    (h : ∀ name j, (name, j) ∈ entries → ReadsBack length (depth + 1) j) :
    ReadsBack length depth (.object entries) := by
  intro front after hfront
  cases entries with
  | nil =>
    rw [Json.lexemes] at hfront
    obtain ⟨⟨start, _, _⟩, tail, rfl, rfl, htail⟩ := List.map_eq_cons_iff.mp hfront
    obtain ⟨⟨_, stop, _⟩, rfl, rfl⟩ := List.map_eq_singleton_iff.mp htail
    rw [List.cons_append, List.singleton_append, readValue, readMembers]
    exact ⟨_, _, rfl, .object start (.close stop)⟩
  | cons entry more =>
    obtain ⟨key, value⟩ := entry
    rw [Json.lexemes] at hfront
    obtain ⟨hvalue, hmore⟩ := Entries.forall_mem_cons_iff.mp h
    obtain ⟨⟨start, _, _⟩, tail, rfl, rfl, htail⟩ := List.map_eq_cons_iff.mp hfront
    obtain ⟨read, hlt, hread, htraces⟩ := readMember_of_lexemes hvalue hmore htail false after
    obtain ⟨keyStart, keyStop, colon, colonStop, rest, rfl, -⟩ := exists_member_front htail
    rw [List.cons_append, readValue, List.cons_append, readMembers, ← List.cons_append, hread]
    · exact ⟨_, _, rfl, .object start htraces⟩
    · simp

/-- The lexemes of a value are read back, however deep it is. -/
lemma readsBack (j : Json) : ReadsBack length depth j := by
  induction j generalizing depth with
  | null => exact readsBack_of_token rfl nofun nofun .null
  | bool value => exact readsBack_of_token rfl nofun nofun fun start stop => .bool start stop value
  | number value =>
    exact readsBack_of_token rfl nofun nofun fun start stop => .number start stop value
  | string value =>
    exact readsBack_of_token rfl nofun nofun fun start stop => .text start stop value
  | array items ih => exact readsBack_array fun item hitem => ih item hitem
  | object entries ih => exact readsBack_object fun name value hmem => ih name value hmem

end Outline

/-- What the lexemes of a value are read into has the shape of the value, and nothing follows. -/
lemma Outline.exists_traces_of_lexemes {j : Json} {ts : List Token}
    (h : ts.map Token.lexeme = j.lexemes) (length : Nat) :
    ∃ o hlt, readValue length 0 ts = (o, .ok ⟨[], hlt⟩) ∧ o.Traces 0 j := by
  have hreads : ReadsBack length 0 j := readsBack j
  have hwhole := hreads ts [] h
  rwa [List.append_nil] at hwhole

/-- What the text of a value is read into has the shape of the value, and nothing follows. -/
lemma Outline.exists_traces_ofText_pretty (j : Json) :
    ∃ o, Outline.ofText j.pretty = (o, none) ∧ o.Traces 0 j := by
  have hlexemes : (tokens j.pretty).map Token.lexeme = j.lexemes :=
    j.map_lexeme_tokens_write Style.blank_pretty
  obtain ⟨o, hlt, hread, htraces⟩ := exists_traces_of_lexemes hlexemes j.pretty.utf8ByteSize
  refine ⟨o, ?_, htraces⟩
  rw [ofText, hread]

/-- In a style that separates with blanks, the text of a value is that of no other. -/
lemma Json.eq_of_write_eq {style : Style} (hstyle : style.Blank) {j k : Json}
    (h : j.write style 0 = k.write style 0) : j = k := by
  have hj := j.map_lexeme_tokens_write hstyle
  have hk := k.map_lexeme_tokens_write hstyle
  rw [← h] at hk
  obtain ⟨o, hlt, hread, htraces⟩ := Outline.exists_traces_of_lexemes hj 0
  obtain ⟨o', hlt', hread', htraces'⟩ := Outline.exists_traces_of_lexemes hk 0
  rw [hread] at hread'
  obtain ⟨rfl, -⟩ := Prod.mk.inj hread'
  exact htraces.unique htraces'

/-- What the text of a value is read into shows the value, and nothing follows. -/
lemma Outline.shows_ofText_pretty {j : Json} (h : j.levels ≤ levelLimit) :
    ∃ o, Outline.ofText j.pretty = (o, none) ∧ o.Shows j := by
  obtain ⟨o, houtline, htraces⟩ := exists_traces_ofText_pretty j
  exact ⟨o, houtline, htraces.shows (by omega)⟩

/-! ## Shown values read as plain JSON -/

mutual

/-- An outline that shows a well-named value is read as that value. -/
lemma Outline.Shows.value_eq : ∀ {o : Outline} {j : Json}, o.Shows j → j.WellNamed →
    o.value = .ok j
  | _, _, .null .., _ => rfl
  | _, _, .bool .., _ => rfl
  | _, _, .number .., _ => rfl
  | _, _, .text .., _ => rfl
  | _, _, .array _ hdepth hitems, hnamed => by
    rw [Outline.value, if_pos hdepth, hitems.values_eq (Json.wellNamed_array_iff.mp hnamed)]
    rfl
  | _, _, .object _ hdepth hmembers, hnamed => by
    obtain ⟨hkeys, hvalues⟩ := Json.wellNamed_object_iff.mp hnamed
    rw [Outline.value, if_pos hdepth, hmembers.entries_eq hvalues []]
    · rfl
    · simpa using hkeys

lemma OutlineItems.Shows.values_eq : ∀ {items : OutlineItems} {js : List Json}, items.Shows js →
    (∀ j ∈ js, j.WellNamed) → items.values = .ok js
  | _, _, .close _, _ => rfl
  | _, _, .item _ hvalue hmore, hnamed => by
    obtain ⟨hfirst, hrest⟩ := List.forall_mem_cons.mp hnamed
    rw [OutlineItems.values, hvalue.value_eq hfirst, hmore.values_eq hrest]
    rfl

lemma OutlineMembers.Shows.entries_eq : ∀ {members : OutlineMembers} {entries : Entries Json},
    members.Shows entries → (∀ name j, (name, j) ∈ entries → j.WellNamed) →
      ∀ done : Entries Json, (Entries.keys (done ++ entries)).Nodup →
        members.entries done = .ok (done ++ entries)
  | _, _, .close _, _, done, _ => by rw [OutlineMembers.entries, List.append_nil]
  | _, _, .member key _ _ hvalue hmore, hnamed, done, hkeys => by
    obtain ⟨hfirst, hrest⟩ := Entries.forall_mem_cons_iff.mp hnamed
    have hfresh := Entries.not_mem_keys_of_nodup hkeys
    rw [OutlineMembers.entries]
    simp only [hvalue.value_eq hfirst, Entries.put_of_not_mem _ hfresh]
    rw [hmore.entries_eq hrest, List.append_assoc, List.singleton_append]
    rwa [List.append_assoc, List.singleton_append]

end

/-! ## Names in what is read -/

universe u v

lemma exists_of_map_eq_ok {ε : Type u} {α β : Type v} {x : Except ε α} {f : α → β} {b : β}
    (h : x.map f = .ok b) : ∃ a, x = .ok a ∧ f a = b := by
  cases x with
  | error e => exact absurd h nofun
  | ok a => exact ⟨a, rfl, Except.ok.inj h⟩

mutual

/-- Whatever is read strictly is well named. -/
lemma Outline.wellNamed_of_value : ∀ {o : Outline} {j : Json}, o.value = .ok j → j.WellNamed
  | .null _ _, _, h => Except.ok.inj h ▸ .null
  | .bool _ _ value, _, h => Except.ok.inj h ▸ .bool value
  | .number _ _ value, _, h => by
    obtain ⟨n, -, rfl⟩ := exists_of_map_eq_ok h
    exact .number n
  | .text _ _ value, _, h => by
    obtain ⟨text, -, rfl⟩ := exists_of_map_eq_ok h
    exact .string text
  | .array start depth items, _, h => by
    rw [Outline.value] at h
    split at h
    · obtain ⟨js, hitems, rfl⟩ := exists_of_map_eq_ok h
      exact .array (OutlineItems.wellNamed_of_values hitems)
    · exact absurd h nofun
  | .object start depth members, _, h => by
    rw [Outline.value] at h
    split at h
    · obtain ⟨entries, hentries, rfl⟩ := exists_of_map_eq_ok h
      exact OutlineMembers.wellNamed_of_entries .empty nofun hentries
    · exact absurd h nofun
  | .broken _ _ _, _, h => absurd h nofun

lemma OutlineItems.wellNamed_of_values : ∀ {items : OutlineItems} {js : List Json},
    items.values = .ok js → ∀ j ∈ js, j.WellNamed
  | .close _, _, h => Except.ok.inj h ▸ nofun
  | .item value _ more, _, h => by
    rw [OutlineItems.values] at h
    split at h
    · exact absurd h nofun
    · next first hfirst =>
      obtain ⟨rest, hrest, rfl⟩ := exists_of_map_eq_ok h
      exact List.forall_mem_cons.mpr
        ⟨Outline.wellNamed_of_value hfirst, OutlineItems.wellNamed_of_values hrest⟩
  | .stuck _, _, h => absurd h nofun

/-- Reading goes on from a table, so that the names stay distinct. -/
lemma OutlineMembers.wellNamed_of_entries : ∀ {members : OutlineMembers} (done : Table Json)
    {entries : Entries Json}, (∀ name j, (name, j) ∈ done.entries → j.WellNamed) →
      members.entries done.entries = .ok entries → (Json.object entries).WellNamed
  | .close _, done, _, hdone, h => Except.ok.inj h ▸ .object done.distinct hdone
  | .member (.ok key) _ value _ more, done, _, hdone, h => by
    rw [OutlineMembers.entries] at h
    split at h
    · exact absurd h nofun
    · next j hj =>
      refine OutlineMembers.wellNamed_of_entries (done.insert key j) (fun name j' hmem => ?_) h
      rcases Table.mem_entries_insert_iff.mp hmem with ⟨-, rfl⟩ | ⟨-, hold⟩
      · exact Outline.wellNamed_of_value hj
      · exact hdone name j' hold
  | .member (.error _) .., _, _, _, h => absurd h nofun
  | .unvalued (.ok _) .., _, _, _, h => absurd h nofun
  | .unvalued (.error _) .., _, _, _, h => absurd h nofun
  | .stuck _, _, _, _, h => absurd h nofun

end

end CloudTemplate
