import TcpShift.FirewallLegacy

set_option autoImplicit false

/- What one call does to the host and to the record, and what others do to the host. -/
namespace TcpShift.Host

open CString
open ServiceConfig (Family Inet)

theorem familyOf_of_validIp {inet : Inet} {text : Option (List UInt8)} {ipVersion : Nat}
    (valid : validIp inet text ipVersion = none) :
    ∃ family, familyOf ipVersion = some family := by
  unfold validIp at valid
  split at valid
  · cases valid
  · exact ⟨_, ‹_›⟩

namespace Firewall

variable {firewall prepared : Firewall} {inet : Inet} {spec : Option FirewallSpec}
  {family : Family} {base rules : Rules}

theorem prepare_of_installed (inet : Inet) (spec : Option FirewallSpec)
    (installed : firewall.installed = true) :
    ∃ errno, firewall.prepare inet spec = .error errno := by
  cases spec with
  | none => exact ⟨_, rfl⟩
  | some spec =>
      simp only [prepare, installed, ↓reduceIte]
      split
      · exact ⟨_, rfl⟩
      · exact ⟨_, rfl⟩

/-- A prepared record: what was asked for, checked, and no rules yet. -/
structure Prepared (inet : Inet) (spec : FirewallSpec) (prepared : Firewall) : Prop where
  clear : prepared.marked false false = prepared
  ipVersion : prepared.ipVersion = spec.ipVersion
  publicPort : prepared.publicPort = spec.publicPort
  targetPort : prepared.targetPort = spec.targetPort
  resourceName : spec.resourceName = some prepared.resourceName
  publicAddress : spec.publicAddress = some prepared.publicAddress
  targetAddress : spec.targetAddress = some prepared.targetAddress
  validName : validResource spec.resourceName = none
  validPublic : validIp inet spec.publicAddress spec.ipVersion = none
  validTarget : validIp inet spec.targetAddress spec.ipVersion = none

theorem some_getD {text : Option (List UInt8)} (given : text.isSome) :
    text = some (text.getD []) := by
  cases text with
  | none => cases given
  | some text => rfl

theorem isSome_of_validIp {text : Option (List UInt8)} {ipVersion : Nat}
    (valid : validIp inet text ipVersion = none) : text.isSome := by
  cases text with
  | none =>
      unfold validIp at valid
      split at valid
      · cases valid
      · cases valid
  | some text => rfl

theorem isSome_of_validResource {text : Option (List UInt8)} (valid : validResource text = none) :
    text.isSome := by
  cases text with
  | none => cases valid
  | some text => rfl

theorem prepare_ok (ready : firewall.prepare inet spec = .ok prepared) :
    firewall.installed = false ∧ ∃ given, spec = some given ∧ Prepared inet given prepared := by
  cases idle : firewall.installed with
  | true =>
      obtain ⟨errno, failed⟩ := prepare_of_installed inet spec idle
      rw [failed] at ready
      cases ready
  | false =>
      cases spec with
      | none => cases ready
      | some spec =>
          simp only [prepare, idle, Bool.false_eq_true, ↓reduceIte] at ready
          split at ready
          · cases ready
          · split at ready
            · cases ready
            · rename_i sound
              obtain ⟨name, address, target⟩ := by simpa only [Option.or_eq_none_iff] using sound
              split at ready
              · cases ready
                exact ⟨rfl, spec, rfl, rfl, rfl, rfl, rfl, some_getD (isSome_of_validResource name),
                  some_getD (isSome_of_validIp address), some_getD (isSome_of_validIp target),
                  name, address, target⟩
              · cases ready

theorem Prepared.version {given : FirewallSpec} (ready : Prepared inet given prepared) :
    ∃ family, familyOf given.ipVersion = some family ∧
      familyOf prepared.ipVersion = some family := by
  obtain ⟨family, version⟩ := familyOf_of_validIp ready.validPublic
  exact ⟨family, version, by rw [ready.ipVersion, version]⟩

theorem Holds.not_created {created jumped : Bool}
    (holds : firewall.Holds family base created jumped rules) (none : created = false) :
    jumped = false ∧ rules = base := by
  cases holds with
  | nothing => exact ⟨rfl, rfl⟩
  | chain => cases none
  | jump => cases none

/-- The outcome of a call on the host: what the record then says is what is there. -/
theorem marked_tracks {created jumped : Bool} (backend : firewall.backend = .iptables)
    (version : familyOf firewall.ipVersion = some family)
    (holds : firewall.Holds family base created jumped rules) :
    (firewall.marked created jumped).Tracks base rules := by
  cases created with
  | false =>
      obtain ⟨rfl, rfl⟩ := holds.not_created rfl
      exact .idle rfl rfl rfl
  | true => exact .iptables (Bool.or_true _) backend version rfl holds

theorem settle_tracks {failed : Option Errno} (tracks : firewall.Tracks base rules) :
    (settle failed firewall).Tracks base rules := by
  unfold settle
  split
  · exact tracks
  · split
    · rename_i cleared
      cases tracks with
      | idle => exact .idle rfl rfl rfl
      | nftables installed => exact absurd installed cleared.1
      | iptables installed => exact absurd installed cleared.1
    · rename_i kept
      cases tracks with
      | idle idle created jumped =>
          rw [idle, created, jumped] at kept
          exact absurd ⟨Bool.false_ne_true, Bool.false_ne_true, Bool.false_ne_true⟩ kept
      | nftables installed backend version created jumped absent =>
          exact .nftables rfl backend version created jumped absent
      | iptables installed backend version created holds =>
          exact .iptables rfl backend version created holds

/-- A dry run is only checked. -/
theorem nftControlRun_dry {answer : NftAnswer NftUse} (documented : answer.Documented)
    (batch : NftBatch) (rules : Rules) :
    ∃ failed, nftControlRun batch true answer rules = (failed, rules) := by
  cases answer with
  | unavailable => exact ⟨_, rfl⟩
  | noContext => exact ⟨_, rfl⟩
  | noBuffers => exact ⟨_, rfl⟩
  | context use =>
      refine ⟨_, Prod.ext rfl ?_⟩
      change { rules with nft := (use.run true batch rules.nft).2 } = rules
      rw [(documented use rfl).dry]

theorem nftControlRun_cases {answer : NftAnswer NftUse} (documented : answer.Documented)
    (batch : NftBatch) (rules : Rules) :
    (∃ errno, nftControlRun batch false answer rules = (some errno, rules)) ∨
      ∃ next, rules.nft.effect batch = some next ∧
        nftControlRun batch false answer rules = (none, { rules with nft := next }) := by
  cases answer with
  | unavailable => exact .inl ⟨_, rfl⟩
  | noContext => exact .inl ⟨_, rfl⟩
  | noBuffers => exact .inl ⟨_, rfl⟩
  | context use =>
      have behaves := documented use rfl
      rcases used : use.run false batch rules.nft with ⟨reply, tables⟩
      cases succeeded : reply.succeeded with
      | true =>
          refine .inr ⟨tables, behaves.done used succeeded, ?_⟩
          simp only [nftControlRun, used, succeeded, ↓reduceIte]
      | false =>
          obtain rfl := behaves.failed used succeeded
          refine .inl ⟨reply.errno.getD .eproto, ?_⟩
          simp only [nftControlRun, used, succeeded, Bool.false_eq_true, ↓reduceIte]

/-- Only the second run of the batch has an effect. -/
theorem nftInstall_cases {dry commit : NftAnswer NftUse} (checks : dry.Documented)
    (commits : commit.Documented) (rules : Rules)
    (version : familyOf firewall.ipVersion = some family) :
    (∃ errno, firewall.nftInstall dry commit rules = (some errno, firewall, rules)) ∨
      rules.nft family firewall.resourceName = none ∧
        firewall.nftInstall dry commit rules = (none, { firewall with installed := true },
          rules.setNft family firewall.resourceName (some (firewall.nftContent family))) := by
  simp only [nftInstall, version]
  split
  · exact .inl ⟨_, rfl⟩
  · obtain ⟨checked, dryRun⟩ := nftControlRun_dry checks
      (.create family firewall.resourceName (firewall.nftContent family)) rules
    rw [dryRun]
    cases checked with
    | some errno => exact .inl ⟨errno, rfl⟩
    | none =>
        rcases nftControlRun_cases commits
          (.create family firewall.resourceName (firewall.nftContent family)) rules with
          ⟨errno, failed⟩ | ⟨next, ran, committed⟩
        · exact .inl ⟨errno, by simp only [failed]⟩
        · simp only [NftTables.effect] at ran
          split at ran
          · cases ran
          · rename_i absent
            cases ran
            exact .inr ⟨absent, by simp only [committed]; rfl⟩

theorem selectBackend_ok {requested selected : Backend} {around : Surroundings} {ipVersion : Nat}
    (chosen : selectBackend requested around ipVersion = .ok selected) :
    selected = .nftables ∨ selected = .iptables := by
  have legacy (chosen : selectLegacy around ipVersion = .ok selected) : selected = .iptables := by
    unfold selectLegacy at chosen
    split at chosen
    · cases chosen
      rfl
    · cases chosen
  unfold selectBackend at chosen
  split at chosen
  · split at chosen
    · cases chosen
    · cases chosen
      exact .inl rfl
    · split at chosen
      · cases chosen
      · exact .inr (legacy chosen)
  · exact .inr (legacy chosen)

/-- The record and the rules a call leaves behind agree. -/
def Agree (base : Rules) (outcome : Option Errno × Firewall × Rules) : Prop :=
  outcome.2.1.Tracks base outcome.2.2

theorem idle_tracks (idle : firewall.marked false false = firewall) : firewall.Tracks base base :=
  .idle (congrArg installed idle).symm (congrArg legacyChainCreated idle).symm
    (congrArg legacyJumpInstalled idle).symm

theorem uses_documented {around : Surroundings} (documented : around.Documented)
    (rules : Rules) : World.Documented { rules := rules, uses := around.uses } := documented.uses

theorem installSelected_agree {around : Surroundings} (documented : around.Documented)
    (idle : firewall.marked false false = firewall)
    (version : familyOf firewall.ipVersion = some family)
    (selected : firewall.backend = .nftables ∨ firewall.backend = .iptables) :
    Agree base (firewall.installSelected around base) := by
  rcases selected with nftables | iptables
  · simp only [installSelected, nftables]
    rcases nftInstall_cases documented.dry documented.commit base version with
      ⟨errno, failed⟩ | ⟨absent, done⟩
    · rw [failed]
      exact idle_tracks idle
    · rw [done]
      exact .nftables rfl nftables version (congrArg legacyChainCreated idle).symm
        (congrArg legacyJumpInstalled idle).symm absent
  · simp only [installSelected, iptables]
    have installed := legacyInstall_installed around.tools
      (uses_documented documented base) rfl idle version
    obtain ⟨created, jumped, flags, holds, _, _⟩ := installed.marked
    change Tracks _ base _
    rw [flags]
    exact marked_tracks iptables version holds

theorem Tracks.rules_eq (tracks : firewall.Tracks base rules)
    (idle : firewall.installed = false) : rules = base := by
  cases tracks with
  | idle => rfl
  | nftables installed => rw [idle] at installed; cases installed
  | iptables installed => rw [idle] at installed; cases installed

theorem install_agree (inet : Inet) (requested : Backend) (spec : Option FirewallSpec)
    {around : Surroundings} (documented : around.Documented)
    (tracks : firewall.Tracks base rules) :
    Agree base (firewall.install inet requested spec around rules) := by
  unfold install
  cases ready : firewall.prepare inet spec with
  | error errno => exact tracks
  | ok prepared =>
      obtain ⟨idle, given, _, checked⟩ := prepare_ok ready
      obtain ⟨family, _, version⟩ := checked.version
      have clear := checked.clear
      obtain rfl := tracks.rules_eq idle
      simp only
      split
      · exact .idle (congrArg installed clear).symm (congrArg legacyChainCreated clear).symm
          (congrArg legacyJumpInstalled clear).symm
      · cases chosen : selectBackend requested around prepared.ipVersion with
        | error errno => exact .idle rfl rfl rfl
        | ok selected =>
            let marked : Firewall := { prepared with backend := selected }
            have clear' : marked.marked false false = marked :=
              congrArg (fun record : Firewall => { record with backend := selected }) clear
            exact settle_tracks
              (installSelected_agree documented clear' version (selectBackend_ok chosen))

theorem nftRemove_cases {commit : NftAnswer NftUse} (commits : commit.Documented)
    (version : familyOf firewall.ipVersion = some family) :
    (∃ errno, firewall.nftRemove commit rules = (some errno, firewall, rules)) ∨
      firewall.nftRemove commit rules = (none, { firewall with installed := false },
        rules.setNft family firewall.resourceName none) := by
  simp only [nftRemove, version]
  split
  · exact .inl ⟨_, rfl⟩
  · rcases nftControlRun_cases commits (.delete family firewall.resourceName) rules with
      ⟨errno, failed⟩ | ⟨next, ran, committed⟩
    · exact .inl ⟨errno, by rw [failed]⟩
    · simp only [NftTables.effect] at ran
      split at ran
      · cases ran
        exact .inr (by simp only [committed]; rfl)
      · cases ran

/-- The text of a deletion fits into its buffer. -/
theorem delete_text_fits (firewall : Firewall) (family : Family) :
    (NftBatch.delete family firewall.resourceName).text.length < nftDeleteMax := by
  have fits := firewall.resourceName_fits
  have words : (Family.text family).length ≤ 3 := by cases family <;> decide
  have first : (ascii "delete table ").length = 13 := by decide
  have space : (ascii " ").length = 1 := by decide
  have line : (ascii "\n").length = 1 := by decide
  simp only [NftBatch.text, List.length_append, first, space, line, nftDeleteMax, resourceMax] at *
  omega

end Firewall

/-- Nothing outside the tables stands in the way of a removal. -/
def Surroundings.Willing (around : Surroundings) (firewall : Firewall) : Prop :=
  match firewall.backend with
  | .nftables => ∃ use, around.commit = .context use ∧ use.willing = true
  | .auto | .iptables | .none =>
      (∃ path, legacyFindTool around.tools firewall.ipVersion = .ok path) ∧
        ∀ index, (around.uses index).willing = true

/-- At most one use of a legacy tool fails for a reason outside the tables. -/
def Surroundings.Single (around : Surroundings) : Prop :=
  ∃ fault, ∀ index, index ≠ fault → (around.uses index).willing = true

namespace Firewall

variable {firewall : Firewall} {base rules : Rules}

theorem nftRemove_willing {family : Family} {commit : NftAnswer NftUse}
    (commits : commit.Documented) (version : familyOf firewall.ipVersion = some family)
    (present : rules.nft family firewall.resourceName ≠ none)
    (willing : ∃ use, commit = .context use ∧ use.willing = true) :
    (firewall.nftRemove commit rules).1 = none := by
  obtain ⟨use, rfl, able⟩ := willing
  obtain ⟨content, present⟩ := Option.ne_none_iff_exists'.mp present
  have fits := Nat.not_le.mpr (delete_text_fits firewall family)
  have effect : rules.nft.effect (.delete family firewall.resourceName) =
      some (rules.nft.set family firewall.resourceName none) := by
    simp only [NftTables.effect, present]
  have succeeded := (commits use rfl).able able effect
  rcases used : use.run false (.delete family firewall.resourceName) rules.nft with
    ⟨reply, tables⟩
  rw [used] at succeeded
  change reply.succeeded = true at succeeded
  simp only [nftRemove, version, fits, ↓reduceIte, nftControlRun, used, succeeded]

theorem setNft_none_of_absent {family : Family} {name : List UInt8}
    (absent : base.nft family name = none) (content : Option NftTable) :
    (base.setNft family name content).setNft family name none = base :=
  Rules.ext rfl (NftTables.set_none_of_absent absent content)

/-- A removal that succeeds leaves nothing, and it succeeds when nothing stands in its way. -/
structure Removed (base : Rules) (willing : Prop) (outcome : Option Errno × Firewall × Rules) :
    Prop where
  agree : Agree base outcome
  emptied : outcome.1 = none → outcome.2.1.installed = false
  able : willing → outcome.1 = none

theorem nftRemove_removed {family : Family} {around : Surroundings}
    (documented : around.Documented)
    (backend : firewall.backend = .nftables)
    (version : familyOf firewall.ipVersion = some family)
    (clear : firewall.legacyChainCreated = false ∧ firewall.legacyJumpInstalled = false)
    (installed : firewall.installed = true)
    (absent : base.nft family firewall.resourceName = none) :
    Removed base (around.Willing firewall)
      (firewall.nftRemove around.commit
        (base.setNft family firewall.resourceName (some (firewall.nftContent family)))) := by
  refine ⟨?_, ?_, ?_⟩
  · rcases nftRemove_cases documented.commit version with ⟨errno, failed⟩ | done
    · rw [failed]
      exact .nftables installed backend version clear.1 clear.2 absent
    · rw [done, setNft_none_of_absent absent]
      exact .idle rfl clear.1 clear.2
  · intro success
    rcases nftRemove_cases documented.commit version with ⟨errno, failed⟩ | done
    · rw [failed] at success
      cases success
    · rw [done]
  · intro willing
    simp only [Surroundings.Willing, backend] at willing
    apply nftRemove_willing documented.commit version _ willing
    change NftTables.set _ _ _ _ _ _ ≠ none
    rw [NftTables.set_self]
    exact Option.some_ne_none _

theorem legacyRemove_removed {family : Family} {around : Surroundings}
    (documented : around.Documented)
    (backend : firewall.backend = .iptables)
    (version : familyOf firewall.ipVersion = some family)
    (installed : firewall.installed = true) (made : firewall.legacyChainCreated = true)
    (holds : firewall.Holds family base true firewall.legacyJumpInstalled rules) :
    Removed base (around.Willing firewall) (firewall.remove around rules) := by
  have call (rules : Rules) : firewall.remove around rules =
      ((firewall.legacyRemove around.tools { rules := rules, uses := around.uses }).1,
        (firewall.legacyRemove around.tools { rules := rules, uses := around.uses }).2.1,
        (firewall.legacyRemove around.tools
          { rules := rules, uses := around.uses }).2.2.rules) := by
    simp [remove, installed, backend]
  rw [call]
  cases tool : legacyFindTool around.tools firewall.ipVersion with
  | error errno =>
      simp only [legacyRemove, tool]
      refine ⟨.iptables installed backend version made holds, ?_, ?_⟩
      · intro success
        cases success
      · intro willing
        simp only [Surroundings.Willing, backend] at willing
        obtain ⟨path, found⟩ := willing.1
        rw [tool] at found
        cases found
  | ok path =>
      obtain ⟨failed, created, jumped, after, result, holds', final, able⟩ :=
        legacyRollback_spec (uses_documented documented rules) ⟨made, rfl⟩ rfl holds
      simp only [legacyRemove, tool, version, result]
      refine ⟨marked_tracks backend version holds', ?_, ?_⟩
      · intro success
        obtain rfl := final.mp success
        obtain ⟨rfl, _⟩ := holds'.not_created rfl
        rfl
      · intro willing
        simp only [Surroundings.Willing, backend] at willing
        exact able fun index _ => willing.2 index

theorem remove_removed {around : Surroundings} (documented : around.Documented)
    (tracks : firewall.Tracks base rules) :
    Removed base (around.Willing firewall) (firewall.remove around rules) := by
  cases tracks with
  | idle idle created jumped =>
      have same : firewall.remove around base = (none, firewall, base) := by
        simp [remove, idle]
      rw [same]
      exact ⟨.idle idle created jumped, fun _ => idle, fun _ => rfl⟩
  | nftables installed backend version created jumped absent =>
      have call (rules : Rules) :
          firewall.remove around rules = firewall.nftRemove around.commit rules := by
        simp [remove, installed, backend]
      rw [call]
      exact nftRemove_removed documented backend version ⟨created, jumped⟩ installed absent
  | iptables installed backend version created holds =>
      exact legacyRemove_removed documented backend version installed created holds

section Foreign

variable {family : Family}

theorem owns_of_installed (installed : firewall.installed = true)
    (version : familyOf firewall.ipVersion = some family) :
    firewall.owns family firewall.resourceName = true := by
  simp [owns, installed, version]

/-- What others do leaves the added chain on whatever they make of the rest. -/
theorem adds_foreign {other : Family} {change : NatTable → NatTable} {chain : List UInt8}
    {given : List (List UInt8)} {jumps : List Jump} {table : NatTable}
    (adds : (base.nat family).Adds chain given jumps table)
    (apart : other = family → NatTable.KeepsOff chain change) :
    ∃ next : NatTable,
      (base.setNat family table).changeNat other change =
        (base.changeNat other change).setNat family next ∧
      ((base.changeNat other change).nat family).Adds chain given jumps next := by
  unfold Rules.changeNat
  by_cases same : other = family
  · subst same
    refine ⟨change table, ?_, ?_⟩
    · rw [Rules.setNat_nat_self, Rules.setNat_setNat, Rules.setNat_setNat]
    · rw [Rules.setNat_nat_self]
      exact adds.foreign (apart rfl)
  · refine ⟨table, ?_, ?_⟩
    · rw [Rules.setNat_nat_of_ne base same, Rules.setNat_comm base same]
    · rw [Rules.setNat_nat_of_ne base (Ne.symm same)]
      exact adds

/-- Others change the rest of the host, and the record stays true. -/
theorem Tracks.nat {other : Family} {change : NatTable → NatTable}
    (tracks : firewall.Tracks base rules)
    (apart : ∀ name, firewall.owns other name = true → NatTable.KeepsOff name change) :
    firewall.Tracks (base.changeNat other change) (rules.changeNat other change) := by
  cases tracks with
  | idle idle created jumped => exact .idle idle created jumped
  | nftables installed backend version created jumped absent =>
      exact .nftables installed backend version created jumped absent
  | @iptables family rules installed backend version created holds =>
      have off : other = family → NatTable.KeepsOff firewall.resourceName change := by
        rintro rfl
        exact apart _ (owns_of_installed installed version)
      refine .iptables installed backend version created ?_
      generalize firewall.legacyJumpInstalled = jumped at holds
      cases holds with
      | chain adds =>
          obtain ⟨next, moved, adds'⟩ := adds_foreign adds off
          rw [moved]
          exact .chain adds'
      | jump adds =>
          obtain ⟨next, moved, adds'⟩ := adds_foreign adds off
          rw [moved]
          exact .jump adds'

theorem Tracks.nft {change : NftTables → NftTables} (tracks : firewall.Tracks base rules)
    (apart : ∀ family name, firewall.owns family name = true →
      NftTables.KeepsOff family name change) :
    firewall.Tracks (base.changeNft change) (rules.changeNft change) := by
  cases tracks with
  | idle idle created jumped => exact .idle idle created jumped
  | @nftables family installed backend version created jumped absent =>
      have off := apart family _ (owns_of_installed installed version)
      have moved : (base.setNft family firewall.resourceName
          (some (firewall.nftContent family))).changeNft change =
            (base.changeNft change).setNft family firewall.resourceName
              (some (firewall.nftContent family)) :=
        Rules.ext rfl (off.rest base.nft _)
      rw [moved]
      exact .nftables installed backend version created jumped ((off.kept base.nft).trans absent)
  | @iptables family rules installed backend version created holds =>
      refine .iptables installed backend version created ?_
      generalize firewall.legacyJumpInstalled = jumped at holds
      cases holds with
      | @chain given table adds =>
          exact .chain (show ((base.changeNft change).nat family).Adds _ given [] table from adds)
      | @jump table adds =>
          exact .jump (show ((base.changeNft change).nat family).Adds _ _ _ table from adds)

end Foreign

section Outcomes

variable {prepared : Firewall} {inet : Inet}

/-- All of it or nothing, unless more than one command meets a fault. -/
theorem installSelected_atomic {around : Surroundings} (documented : around.Documented)
    {family : Family}
    (idle : firewall.marked false false = firewall)
    (version : familyOf firewall.ipVersion = some family)
    (selected : firewall.backend = .nftables ∨ firewall.backend = .iptables)
    (single : around.Single)
    (failure : (firewall.installSelected around base).1 ≠ none) :
    (firewall.installSelected around base).2.1 = firewall := by
  rcases selected with nftables | iptables
  · simp only [installSelected, nftables] at failure ⊢
    rcases nftInstall_cases documented.dry documented.commit base version with
      ⟨errno, failed⟩ | ⟨absent, done⟩
    · rw [failed]
    · rw [done] at failure
      exact absurd rfl failure
  · simp only [installSelected, iptables] at failure ⊢
    have installed := legacyInstall_installed around.tools
      (uses_documented documented base) rfl idle version
    obtain ⟨created, jumped, flags, holds, _, atomic⟩ := installed.marked
    obtain ⟨fault, others⟩ := single
    obtain rfl := atomic failure ⟨fault, fun index _ apart => others index apart⟩
    obtain ⟨rfl, _⟩ := holds.not_created rfl
    rw [flags, idle]

theorem install_atomic (requested : Backend) (spec : Option FirewallSpec)
    {around : Surroundings} (documented : around.Documented)
    (tracks : firewall.Tracks base rules) (idle : firewall.installed = false)
    (single : around.Single)
    (failure : (firewall.install inet requested spec around rules).1 ≠ none) :
    (firewall.install inet requested spec around rules).2.1.installed = false := by
  unfold install at failure ⊢
  cases ready : firewall.prepare inet spec with
  | error errno => exact idle
  | ok prepared =>
      obtain ⟨_, given, _, checked⟩ := prepare_ok ready
      obtain ⟨family, _, version⟩ := checked.version
      have clear := checked.clear
      obtain rfl := tracks.rules_eq idle
      rw [ready] at failure
      simp only at failure ⊢
      split
      · exact (congrArg installed clear).symm
      · rename_i named
        rw [if_neg named] at failure
        cases chosen : selectBackend requested around prepared.ipVersion with
        | error errno => rfl
        | ok selected =>
            rw [chosen] at failure
            simp only at failure ⊢
            let marked : Firewall := { prepared with backend := selected }
            have clear' : marked.marked false false = marked :=
              congrArg (fun record : Firewall => { record with backend := selected }) clear
            have same := installSelected_atomic documented clear' version
              (selectBackend_ok chosen) single failure
            have idle' : ¬ marked.installed ∧ ¬ marked.legacyChainCreated ∧
                ¬ marked.legacyJumpInstalled := by
              rw [← clear']
              exact ⟨Bool.false_ne_true, Bool.false_ne_true, Bool.false_ne_true⟩
            rw [same, settle, if_neg failure, if_pos idle']
            rfl

/-- What a finished installation through one of the two backends has changed. -/
inductive Forwards (firewall : Firewall) (family : Family) (base : Rules) : Rules → Prop where
  | nftables (absent : base.nft family firewall.resourceName = none) :
      Forwards firewall family base
        (base.setNft family firewall.resourceName (some (firewall.nftContent family)))
  | iptables {table : NatTable}
      (redirects : ∀ hits : List UInt8 → List UInt8 → Bool, table.redirect hits =
        if hits firewall.publicAddress (printDecimal firewall.publicPort.toNat) then
          some (firewall.target family)
        else (base.nat family).redirect hits) :
      Forwards firewall family base (base.setNat family table)

theorem installSelected_forwards {around : Surroundings} (documented : around.Documented)
    {family : Family}
    (idle : firewall.marked false false = firewall)
    (version : familyOf firewall.ipVersion = some family)
    (selected : firewall.backend = .nftables ∨ firewall.backend = .iptables)
    (success : (firewall.installSelected around base).1 = none) :
    Forwards firewall family base (firewall.installSelected around base).2.2 := by
  rcases selected with nftables | iptables
  · simp only [installSelected, nftables] at success ⊢
    rcases nftInstall_cases documented.dry documented.commit base version with
      ⟨errno, failed⟩ | ⟨absent, done⟩
    · rw [failed] at success
      cases success
    · rw [done]
      exact .nftables absent
  · simp only [installSelected, iptables] at success ⊢
    have installed := legacyInstall_installed around.tools
      (uses_documented documented base) rfl idle version
    obtain ⟨created, jumped, _, holds, complete, _⟩ := installed.marked
    obtain ⟨table, rules, first⟩ := installed.first success
    obtain rfl := complete success
    rw [rules] at holds ⊢
    generalize here : base.setNat family table = final at holds
    cases holds with
    | jump adds =>
        have same := congrArg (fun rules : Rules => rules.nat family) here
        simp only [Rules.setNat_nat_self] at same
        subst same
        apply Forwards.iptables
        intro hits
        rw [adds.redirect first]
        rfl

theorem install_forwards {requested : Backend} {spec : FirewallSpec} {around : Surroundings}
    (documented : around.Documented) (tracks : firewall.Tracks base rules)
    (wanted : requested ≠ .none)
    (success : (firewall.install inet requested (some spec) around rules).1 = none) :
    ∃ prepared family, Prepared inet spec prepared ∧ familyOf spec.ipVersion = some family ∧
      Forwards prepared family rules
        (firewall.install inet requested (some spec) around rules).2.2 := by
  unfold install at success ⊢
  cases ready : firewall.prepare inet (some spec) with
  | error errno =>
      rw [ready] at success
      cases success
  | ok prepared =>
      obtain ⟨idle, given, same, checked⟩ := prepare_ok ready
      cases same
      obtain ⟨family, version', version⟩ := checked.version
      obtain rfl := tracks.rules_eq idle
      rw [ready] at success
      simp only [wanted, ↓reduceIte] at success ⊢
      cases chosen : selectBackend requested around prepared.ipVersion with
      | error errno =>
          rw [chosen] at success
          cases success
      | ok selected =>
          rw [chosen] at success
          simp only at success ⊢
          let marked : Firewall := { prepared with backend := selected }
          have clear' : marked.marked false false = marked :=
            congrArg (fun record : Firewall => { record with backend := selected }) checked.clear
          have forwards := installSelected_forwards documented clear' version
            (selectBackend_ok chosen) success
          exact ⟨marked, family, { checked with clear := clear' }, version', forwards⟩

end Outcomes

end Firewall

end TcpShift.Host
