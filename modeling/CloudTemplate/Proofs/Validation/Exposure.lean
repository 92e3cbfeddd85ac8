import CloudTemplate.Proofs.Validation.About
import CloudTemplate.Proofs.Validation.Report

/-!
# Rules that are open to everyone

An ingress rule that admits the whole internet should admit it to the ports of the web alone.
`PropertyValue.ConfinedToWeb` says that a rule does so, whatever its intrinsics come to be: its
protocol and its ports are told outright.  What is reported depends on less.  A rule is left alone
just if nothing but a port of the web can be read from it (`PropertyValue.ReadsAsWeb`), and what
cannot be read counts as absent.  For a first port that is the safe side, because without one a rule
is taken to open all ports.  For a protocol and for a last port it is not: a rule is left alone
without being confined if its protocol is an intrinsic, or if it has a last port that cannot be
read (`openIngress_reported_iff`).
-/

namespace CloudTemplate

namespace PropertyValue

variable {rule : PropertyValue}

/-- What a rule has under a name, read as a whole number. -/
def portUnder? (rule : PropertyValue) (key : String) : Option Int :=
  (rule.get? key).bind (·.asInt64?)

/-- A rule has no intrinsic under a name. -/
def LiteralUnder (rule : PropertyValue) (key : String) : Prop :=
  ∀ value, rule.get? key = some value → value.isIntrinsic = false

/-- A rule admits the whole internet. -/
def OpenToAll (rule : PropertyValue) : Prop :=
  rule.get? "CidrIp" = some (.string "0.0.0.0/0") ∨ rule.get? "CidrIpv6" = some (.string "::/0")

/-- A rule tells outright that it is about one port of the web.  None of the three is left to an
intrinsic: no protocol is told or one that has ports, the first port is one of the web, and no last
port is told or the same. -/
structure ConfinedToWeb (rule : PropertyValue) : Prop where
  literal : ∀ key ∈ ["IpProtocol", "FromPort", "ToPort"], rule.LiteralUnder key
  protocol : ingressProtocol? rule ≠ some "-1" ∧ ingressProtocol? rule ≠ some "all"
  ports : ∃ port, (port = 80 ∨ port = 443) ∧ rule.portUnder? "FromPort" = some port ∧
    ∀ last, rule.get? "ToPort" = some last → last.asInt64? = some port

/-- As far as a rule can be read, it is about one port of the web. -/
structure ReadsAsWeb (rule : PropertyValue) : Prop where
  protocol : ingressProtocol? rule ≠ some "-1" ∧ ingressProtocol? rule ≠ some "all"
  ports : ∃ port, (port = 80 ∨ port = 443) ∧ rule.portUnder? "FromPort" = some port ∧
    ∀ last, rule.portUnder? "ToPort" = some last → last = port

/-- A rule as it may be when it is deployed: each intrinsic has become some value, and everything
else is as it was. -/
def Settles (rule deployed : PropertyValue) : Prop :=
  ∀ key, Option.Rel (fun value settled => value.isIntrinsic = false → settled = value)
    (rule.get? key) (deployed.get? key)

/-! ## What is reported of a rule -/

lemma find?_openSources_eq_none_iff :
    (openSources.find? fun (key, source) => (rule.get? key).bind (·.asText?) == some source) =
      none ↔ ¬ rule.OpenToAll := by
  have htext : ∀ key source, ((rule.get? key).bind (·.asText?) == some source) = true ↔
      rule.get? key = some (.string source) := by
    intro key source
    cases rule.get? key with
    | none => simp
    | some value => cases value <;> simp [asText?]
  simp only [List.find?_eq_none, openSources, List.forall_mem_cons, List.not_mem_nil,
    false_imp_iff, forall_const, and_true, htext, OpenToAll, not_or]

/-- A rule is left alone exactly if it does not admit the whole internet, or only a port of the web
can be read from it. -/
lemma exposure?_eq_none_iff : exposure? rule = none ↔ (rule.OpenToAll → rule.ReadsAsWeb) := by
  have hprotocol : ∀ name, name ≠ "" →
      ((ingressProtocol? rule).getD "" = name ↔ ingressProtocol? rule = some name) := by
    intro name hname
    cases ingressProtocol? rule <;> simp [hname.symm]
  unfold exposure?
  cases hfind : openSources.find? fun (key, source) =>
      (rule.get? key).bind (·.asText?) == some source with
  | none => simp [find?_openSources_eq_none_iff.mp hfind]
  | some found =>
    have hopen : rule.OpenToAll := by
      by_contra hclosed
      rw [find?_openSources_eq_none_iff.mpr hclosed] at hfind
      exact absurd hfind (Option.some_ne_none _).symm
    simp only [hopen, forall_const, hprotocol "-1" (by decide), hprotocol "all" (by decide)]
    -- If the protocol is all of them, the ports are of no interest.
    by_cases hall : ingressProtocol? rule = some "-1" ∨ ingressProtocol? rule = some "all"
    · rw [if_pos hall]
      exact iff_of_false (Option.some_ne_none _) fun h => hall.elim h.protocol.1 h.protocol.2
    · rw [if_neg hall]
      rw [not_or] at hall
      have hreads : rule.ReadsAsWeb ↔ ∃ port, (port = 80 ∨ port = 443) ∧
          rule.portUnder? "FromPort" = some port ∧
            ∀ last, rule.portUnder? "ToPort" = some last → last = port :=
        ⟨fun h => h.ports, fun h => ⟨hall, h⟩⟩
      rw [hreads]
      simp only [portUnder?]
      cases (rule.get? "FromPort").bind (·.asInt64?) with
      | none => simp
      | some first =>
        cases (rule.get? "ToPort").bind (·.asInt64?) with
        | none => simp [webPorts, or_iff_not_imp_left]
        | some last =>
          by_cases hone : first = last
          · simp [webPorts, hone, or_iff_not_imp_left]
          · simp only [Option.or_some, Option.getD_some, if_neg hone]
            refine iff_of_false (Option.some_ne_none _) ?_
            rintro ⟨port, -, hfirst, hlast⟩
            exact hone ((Option.some.inj hfirst).trans (hlast last rfl).symm)

/-! ## What can become of a rule -/

/-- What can be read is no intrinsic. -/
lemma isIntrinsic_eq_false_of_asInt64? {value : PropertyValue} {n : Int}
    (h : value.asInt64? = some n) : value.isIntrinsic = false := by
  cases value with
  | number value => rfl
  | string value => rfl
  | _ => cases h

lemma literalUnder_of_portUnder? {key : String} {port : Int}
    (h : rule.portUnder? key = some port) : rule.LiteralUnder key := by
  intro value hvalue
  rw [portUnder?, hvalue, Option.bind_some] at h
  exact isIntrinsic_eq_false_of_asInt64? h

/-- A rule from which only a port of the web can be read is confined to it, unless its protocol is
an intrinsic or it has a last port that cannot be read. -/
lemma ReadsAsWeb.confinedToWeb_iff (h : rule.ReadsAsWeb) : rule.ConfinedToWeb ↔
    rule.LiteralUnder "IpProtocol" ∧
      ∀ last, rule.get? "ToPort" = some last → last.asInt64?.isSome = true := by
  constructor
  · intro hconfined
    obtain ⟨port, -, -, hlast⟩ := hconfined.ports
    refine ⟨hconfined.literal _ (by simp), fun last hget => ?_⟩
    rw [hlast last hget]
    rfl
  · rintro ⟨hprotocol, hlegible⟩
    obtain ⟨port, hweb, hfirst, hlast⟩ := h.ports
    have hsame : ∀ last, rule.get? "ToPort" = some last → last.asInt64? = some port := by
      intro last hget
      obtain ⟨n, hn⟩ := Option.isSome_iff_exists.mp (hlegible last hget)
      rw [hn, hlast n (by rw [portUnder?, hget, Option.bind_some, hn])]
    refine ⟨?_, h.protocol, port, hweb, hfirst, hsame⟩
    simp only [List.forall_mem_cons, List.not_mem_nil, false_imp_iff, forall_const, and_true]
    exact ⟨hprotocol, literalUnder_of_portUnder? hfirst, fun last hget =>
      isIntrinsic_eq_false_of_asInt64? (hsame last hget)⟩

/-- What is literal stays as it is. -/
lemma Settles.get?_eq {deployed : PropertyValue} {key : String} (h : rule.Settles deployed)
    (hliteral : rule.LiteralUnder key) : deployed.get? key = rule.get? key := by
  have hkey := h key
  rw [LiteralUnder] at hliteral
  generalize rule.get? key = value, deployed.get? key = settled at hkey hliteral
  cases hkey with
  | none => rfl
  | some hsettled => rw [hsettled (hliteral _ rfl)]

lemma get?_put (entries : List (String × PropertyValue)) (key other : String)
    (settled : PropertyValue) : (PropertyValue.map (Entries.put entries key settled)).get? other =
      if other = key then some settled else (PropertyValue.map entries).get? other := by
  simp only [get?, asMap?, Option.bind_some]
  split
  · next hother => rw [hother, Entries.find?_put_self]
  · next hother => rw [Entries.find?_put_of_ne entries settled hother]

/-- An intrinsic may become any value, while nothing else changes. -/
lemma settles_put {entries : List (String × PropertyValue)} {key : String} {value : PropertyValue}
    (hget : (PropertyValue.map entries).get? key = some value) (hvalue : value.isIntrinsic = true)
    (settled : PropertyValue) :
    (PropertyValue.map entries).Settles (.map (Entries.put entries key settled)) := by
  intro other
  rw [get?_put]
  split
  · next hother =>
    rw [hother, hget]
    exact .some fun hliteral => by simp [hvalue] at hliteral
  · cases (PropertyValue.map entries).get? other with
    | none => exact .none
    | some value => exact .some fun _ => rfl

lemma exists_settles {key : String} (hintrinsic : ¬ rule.LiteralUnder key)
    (settled : PropertyValue) : ∃ deployed, rule.Settles deployed ∧
      deployed.get? key = some settled ∧
      ∀ other, other ≠ key → deployed.get? other = rule.get? other := by
  simp only [LiteralUnder, not_forall, Bool.not_eq_false] at hintrinsic
  obtain ⟨value, hget, hvalue⟩ := hintrinsic
  cases rule with
  | map entries =>
    refine ⟨.map (Entries.put entries key settled), settles_put hget hvalue settled, ?_,
      fun other hother => ?_⟩
    · rw [get?_put, if_pos rfl]
    · rw [get?_put, if_neg hother]
  | _ => cases hget

/-- A rule without intrinsics where it is read is read alike when it is deployed. -/
lemma ReadsAsWeb.of_settles (h : rule.ReadsAsWeb) (hprotocol : rule.LiteralUnder "IpProtocol")
    (hlast : rule.LiteralUnder "ToPort") {deployed : PropertyValue}
    (hsettles : rule.Settles deployed) : deployed.ReadsAsWeb := by
  obtain ⟨hprotocols, port, hweb, hfirst, hlasts⟩ := h
  have hfirst' : deployed.portUnder? "FromPort" = some port := by
    rw [portUnder?, hsettles.get?_eq (literalUnder_of_portUnder? hfirst)]
    exact hfirst
  refine ⟨?_, port, hweb, hfirst', ?_⟩
  · rwa [ingressProtocol?, hsettles.get?_eq hprotocol]
  · rwa [portUnder?, hsettles.get?_eq hlast]

/-- A rule that admits the whole internet, and from which only a port of the web can be read, stays
like that whatever its intrinsics become, exactly if neither its protocol nor its last port is an
intrinsic. -/
lemma ReadsAsWeb.forall_settles_iff (h : rule.ReadsAsWeb) (hopen : rule.OpenToAll) :
    (∀ deployed, rule.Settles deployed → exposure? deployed = none) ↔
      rule.LiteralUnder "IpProtocol" ∧ rule.LiteralUnder "ToPort" := by
  constructor
  · intro hsafe
    -- An intrinsic that turns into something else in this place brings in other ports.
    have hreads : ∀ (key : String) (settled : PropertyValue), key ≠ "CidrIp" →
        key ≠ "CidrIpv6" → ¬ rule.LiteralUnder key →
          ∃ deployed : PropertyValue, deployed.get? key = some settled ∧ deployed.ReadsAsWeb := by
      intro key settled hv4 hv6 hintrinsic
      obtain ⟨deployed, hsettles, hget, hothers⟩ := exists_settles hintrinsic settled
      have hopen' : deployed.OpenToAll := by
        rw [OpenToAll, hothers _ hv4.symm, hothers _ hv6.symm]
        exact hopen
      exact ⟨deployed, hget, exposure?_eq_none_iff.mp (hsafe deployed hsettles) hopen'⟩
    constructor
    · by_contra hintrinsic
      obtain ⟨deployed, hget, hweb⟩ :=
        hreads "IpProtocol" (.string "-1") (by decide) (by decide) hintrinsic
      refine hweb.protocol.1 ?_
      rw [ingressProtocol?, hget]
      decide
    · by_contra hintrinsic
      obtain ⟨deployed, hget, hweb⟩ :=
        hreads "ToPort" (.ofInt 65535) (by decide) (by decide) hintrinsic
      obtain ⟨port, hport, -, hlast⟩ := hweb.ports
      have hsame : 65535 = port := hlast 65535 (by rw [portUnder?, hget]; decide)
      omega
  · rintro ⟨hprotocol, hlast⟩ deployed hsettles
    exact exposure?_eq_none_iff.mpr fun _ => h.of_settles hprotocol hlast hsettles

end PropertyValue

/-! ## What is reported of a resource -/

namespace Resource

/-- The ingress rules of a resource: the items of the list in a group, or what a rule of its own has
for properties. -/
def ingressRules (r : Resource) : List PropertyValue :=
  if r.typeName = "AWS::EC2::SecurityGroupIngress" then [.map r.properties.entries]
  else if r.typeName = "AWS::EC2::SecurityGroup" then
    ((r.property? "SecurityGroupIngress").bind (·.asList?)).getD []
  else []

/-- The property on which the rules of a resource are reported. -/
def ingressPlace (r : Resource) : String :=
  if r.typeName = "AWS::EC2::SecurityGroupIngress" then "CidrIp" else "SecurityGroupIngress"

end Resource

variable {id : String} {r : Resource} {f : Finding}

lemma resource?_of_mem_practiceFindings (h : f ∈ practiceFindings id r) :
    f.resource? = some id := by
  rcases mem_practiceFindings_cases h with rfl | rfl | rfl | ⟨_, rfl⟩ | ⟨_, _, rfl⟩ <;> rfl

lemma filter_practiceFindingsOf {type : ResourceType} (htype : type ≠ .securityGroup) :
    (practiceFindingsOf id r type).filter (·.code.text = "W4005") = [] := by
  rw [List.filter_eq_nil_iff]
  intro f hf
  rcases mem_practiceFindingsOf_cases hf with rfl | rfl | rfl | ⟨seconds, rfl⟩ | ⟨hgroup, -⟩
  case inr.inr.inr.inr => exact absurd hgroup htype
  all_goals simp [Finding.code, Code.text]

lemma ofName?_eq_some_iff {name : String} {type : ResourceType} :
    ResourceType.ofName? name = some type ↔ type.name = name := by
  constructor
  · intro h
    simpa using List.find?_some h
  · rintro rfl
    cases type <;> decide

/-- The findings of a resource about open rules are those of its rules, in their order. -/
lemma filter_practiceFindings :
    (practiceFindings id r).filter (·.code.text = "W4005") =
      (r.ingressRules.filterMap exposure?).map (.openIngress id r.ingressPlace) := by
  have hall : ∀ (place : String) (exposures : List Exposure),
      (exposures.map (Finding.openIngress id place)).filter (·.code.text = "W4005") =
        exposures.map (.openIngress id place) := by
    intro place exposures
    refine (filter_code_eq (fun f hf => ?_) "W4005").trans (if_pos rfl)
    obtain ⟨exposure, -, rfl⟩ := List.mem_map.mp hf
    rfl
  unfold practiceFindings standaloneRuleType Resource.ingressRules Resource.ingressPlace
  by_cases hstandalone : r.typeName = "AWS::EC2::SecurityGroupIngress"
  · rw [if_pos hstandalone, if_pos hstandalone, if_pos hstandalone, hall]
    cases hexposure : exposure? (.map r.properties.entries) <;> simp [hexposure]
  · rw [if_neg hstandalone, if_neg hstandalone, if_neg hstandalone]
    by_cases hgroup : r.typeName = "AWS::EC2::SecurityGroup"
    · have htype : ResourceType.ofName? r.typeName = some .securityGroup :=
        ofName?_eq_some_iff.mpr hgroup.symm
      rw [if_pos hgroup, htype]
      exact hall _ _
    · rw [if_neg hgroup, List.filterMap_nil, List.map_nil]
      cases htype : ResourceType.ofName? r.typeName with
      | none => rfl
      | some type =>
        refine filter_practiceFindingsOf ?_
        rintro rfl
        exact hgroup (ofName?_eq_some_iff.mp htype).symm

/-- What good practice reports of the ingress rules of a resource (`W4005`) is told by `exposure?`,
rule by rule.  Take a rule that admits the whole internet.  It is left alone exactly if only a port
of the web can be read from it.  If it is left alone, then it is confined to that port just if its
protocol is no intrinsic and its last port, if it has one, can be read; and it stays unobjectionable
whatever its intrinsics become just if neither of the two is an intrinsic. -/
theorem openIngress_reported_iff (p : Policy) (t : Template) (id : String) (r : Resource)
    (hr : (id, r) ∈ t.resources.entries) :
    findingsAbout "W4005" id (Pass.bestPractices.findings p t) =
        (r.ingressRules.filterMap exposure?).map (.openIngress id r.ingressPlace) ∧
      ∀ rule ∈ r.ingressRules, rule.OpenToAll →
        (exposure? rule = none ↔ rule.ReadsAsWeb) ∧
        (exposure? rule = none → (rule.ConfinedToWeb ↔ rule.LiteralUnder "IpProtocol" ∧
          ∀ last, rule.get? "ToPort" = some last → last.asInt64?.isSome = true)) ∧
        (exposure? rule = none →
          ((∀ deployed, rule.Settles deployed → exposure? deployed = none) ↔
            rule.LiteralUnder "IpProtocol" ∧ rule.LiteralUnder "ToPort")) := by
  constructor
  · rw [← filter_practiceFindings]
    exact findingsAbout_flatMap (fun _ _ _ hf => resource?_of_mem_practiceFindings hf) hr "W4005"
  · intro rule _ hopen
    have hreads : exposure? rule = none ↔ rule.ReadsAsWeb :=
      PropertyValue.exposure?_eq_none_iff.trans (imp_iff_right hopen)
    exact ⟨hreads, fun halone => (hreads.mp halone).confinedToWeb_iff,
      fun halone => (hreads.mp halone).forall_settles_iff hopen⟩

/-- A rule that admits the whole internet to ports of a protocol. -/
def openRule (protocol first last : PropertyValue) : PropertyValue :=
  .map [("IpProtocol", protocol), ("FromPort", first), ("ToPort", last),
    ("CidrIp", .string "0.0.0.0/0")]

/-- A group with five rules: for a port of the web, for another port, for ports up to one that is an
intrinsic, for a protocol that is an intrinsic, and for ports up to one that is a text with a
point. -/
def gateGroup : Resource where
  typeName := "AWS::EC2::SecurityGroup"
  properties := .ofList [("GroupDescription", .string "Gate"), ("SecurityGroupIngress", .list
    [openRule (.string "tcp") (.ofInt 443) (.ofInt 443),
      openRule (.string "tcp") (.ofInt 22) (.ofInt 22),
      openRule (.string "tcp") (.ofInt 80) (.ref "LastPort"),
      openRule (.ref "Protocol") (.ofInt 80) (.ofInt 80),
      openRule (.string "tcp") (.ofInt 80) (.string "65535.0")])]

/-- A template with that group. -/
def gateTemplate : Template where
  formatVersion := formatVersion
  description := "Gate"
  resources := .ofList [("Gate", gateGroup)]

/-- The rule for another port is reported, and the rule for a port of the web is confined to it. -/
theorem openIngress_reported_iff_gateTemplate :
    ("Gate", gateGroup) ∈ gateTemplate.resources.entries ∧
      findingsAbout "W4005" "Gate" (Pass.bestPractices.findings {} gateTemplate) =
        [.openIngress "Gate" "SecurityGroupIngress" (.onePort "0.0.0.0/0" 22)] ∧
      (openRule (.string "tcp") (.ofInt 443) (.ofInt 443)).ConfinedToWeb := by
  have hgate : ("Gate", gateGroup) ∈ gateTemplate.resources.entries := by decide
  obtain ⟨hreported, hrules⟩ := openIngress_reported_iff {} gateTemplate "Gate" gateGroup hgate
  refine ⟨hgate, hreported.trans (by decide +kernel), ?_⟩
  obtain ⟨-, hconfined, -⟩ := hrules (openRule (.string "tcp") (.ofInt 443) (.ofInt 443))
    (by decide +kernel) (.inl (by decide))
  refine (hconfined (by decide)).mpr ⟨?_, ?_⟩
  · rintro value hvalue
    cases hvalue
    rfl
  · rintro last hlast
    cases hlast
    decide

/-- Three of the rules of the group are left alone, although each admits the whole internet and none
is confined to a port of the web.  When the intrinsic of the first is `65535`, the rule opens all
ports from `80` on, and a rule that says so outright is reported. -/
theorem openIngress_gateTemplate_left_alone :
    (∀ rule ∈ [openRule (.string "tcp") (.ofInt 80) (.ref "LastPort"),
        openRule (.ref "Protocol") (.ofInt 80) (.ofInt 80),
        openRule (.string "tcp") (.ofInt 80) (.string "65535.0")],
      rule ∈ gateGroup.ingressRules ∧ rule.OpenToAll ∧ exposure? rule = none ∧
        ¬ rule.ConfinedToWeb) ∧
    findingsAbout "W4005" "Gate" (Pass.bestPractices.findings {} gateTemplate) =
      [.openIngress "Gate" "SecurityGroupIngress" (.onePort "0.0.0.0/0" 22)] ∧
    (openRule (.string "tcp") (.ofInt 80) (.ref "LastPort")).Settles
      (openRule (.string "tcp") (.ofInt 80) (.ofInt 65535)) ∧
    exposure? (openRule (.string "tcp") (.ofInt 80) (.ofInt 65535)) =
      some (.ports "0.0.0.0/0" 80 65535) := by
  refine ⟨?_, by decide +kernel, ?_, by decide +kernel⟩
  · simp only [List.forall_mem_cons, List.not_mem_nil, false_imp_iff, forall_const, and_true]
    refine ⟨⟨by decide +kernel, .inl (by decide), by decide, fun h => ?_⟩,
      ⟨by decide +kernel, .inl (by decide), by decide, fun h => ?_⟩,
      ⟨by decide +kernel, .inl (by decide), by decide +kernel, fun h => ?_⟩⟩
    · exact absurd (h.literal "ToPort" (by simp) (.ref "LastPort") (by decide)) (by decide)
    · exact absurd (h.literal "IpProtocol" (by simp) (.ref "Protocol") (by decide)) (by decide)
    · obtain ⟨port, -, -, hlast⟩ := h.ports
      have hillegible : (PropertyValue.string "65535.0").asInt64? = none := by decide +kernel
      simpa [hillegible] using hlast (.string "65535.0") (by decide)
  · have hlast : (openRule (.string "tcp") (.ofInt 80) (.ref "LastPort")).get? "ToPort" =
        some (.ref "LastPort") := by decide
    exact PropertyValue.settles_put hlast (by decide) (.ofInt 65535)

end CloudTemplate
