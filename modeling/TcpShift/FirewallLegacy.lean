import TcpShift.FirewallRuns

set_option autoImplicit false

/- The legacy commands one after the other, when the tools do what is documented: each either
does its part or fails without an effect, and the flags of the record follow what was done. -/
namespace TcpShift.Host

open ServiceConfig (Family Inet)

/-- Every use of a tool does what is documented. -/
def World.Documented (world : World) : Prop := ∀ index, (world.uses index).Documented

/-- No use of a tool to come fails for a reason outside the tables. -/
def World.Clear (world : World) : Prop :=
  ∀ index, world.used ≤ index → (world.uses index).willing = true

/-- At most one use of a tool to come fails for a reason outside the tables. -/
def World.Single (world : World) : Prop :=
  ∃ fault, ∀ index, world.used ≤ index → index ≠ fault → (world.uses index).willing = true

section Commands

variable {family : Family} {base : Rules} {table next : NatTable} {command : NatCommand}
  {world : World}

/-- One use is over, and nothing else about the tools has changed. -/
structure World.Spent (world after : World) : Prop where
  uses : after.uses = world.uses
  used : after.used = world.used + 1

theorem World.Spent.documented {after : World} (spent : world.Spent after)
    (documented : world.Documented) : after.Documented := by
  intro index
  rw [spent.uses]
  exact documented index

theorem World.Spent.clear {after : World} (spent : world.Spent after) (clear : world.Clear) :
    after.Clear := by
  intro index later
  rw [spent.uses]
  have started := spent.used
  exact clear index (by omega)

theorem World.Spent.single {after : World} (spent : world.Spent after) (single : world.Single) :
    after.Single := by
  obtain ⟨fault, others⟩ := single
  refine ⟨fault, fun index later apart => ?_⟩
  rw [spent.uses]
  have started := spent.used
  exact others index (by omega) apart

/-- After the one fault there is none. -/
theorem World.Spent.clear_of_fault {after : World} (spent : world.Spent after)
    (unwilling : (world.uses world.used).willing = false) (single : world.Single) :
    after.Clear := by
  obtain ⟨fault, others⟩ := single
  intro index later
  rw [spent.uses]
  have started := spent.used
  have here : world.used = fault := by
    by_contra apart
    rw [others world.used (Nat.le_refl _) apart] at unwilling
    cases unwilling
  exact others index (by omega) (by omega)

/-- A command that fails changes nothing, and one that succeeds had its effect. -/
theorem legacyRun_cases (family : Family) (command : NatCommand) (documented : world.Documented) :
    ∃ failed after, legacyRun family command world = (failed, after) ∧ world.Spent after ∧
      ((∃ errno, failed = some errno) ∧ after.rules = world.rules ∧
          ((world.uses world.used).willing = false ∨
            (world.rules.nat family).effect command = none) ∨
        failed = none ∧ ∃ next, (world.rules.nat family).effect command = some next ∧
          after.rules = world.rules.setNat family next) := by
  have behaves := documented world.used
  obtain ⟨status, table, used⟩ := behaves.ends (world.rules.nat family) command
  cases fork : (world.uses world.used).unforked with
  | some errno =>
      refine ⟨some errno, { world with used := world.used + 1 }, ?_, ⟨rfl, rfl⟩,
        .inl ⟨⟨errno, rfl⟩, rfl, .inl ?_⟩⟩
      · simp only [legacyRun, fork]
      · by_contra willing
        rw [Bool.not_eq_false] at willing
        rw [behaves.forks willing] at fork
        cases fork
  | none =>
      refine ⟨waitChild (.exited status), { world with
        rules := world.rules.setNat family table, used := world.used + 1 }, ?_, ⟨rfl, rfl⟩, ?_⟩
      · simp only [legacyRun, fork, used]
      · by_cases zero : status = 0
        · subst zero
          exact .inr ⟨rfl, table, behaves.done used, rfl⟩
        · obtain rfl := behaves.failed used zero
          refine .inl ⟨⟨.eproto, if_neg zero⟩, Rules.setNat_self world.rules family, ?_⟩
          by_contra neither
          rw [not_or, Bool.not_eq_false] at neither
          obtain ⟨next, effect⟩ := Option.ne_none_iff_exists'.mp neither.2
          have succeeded := behaves.able neither.1 effect
          rw [used] at succeeded
          exact zero (ChildEnd.exited.inj succeeded)

/-- Only a fault keeps a command from running that the table does not refuse. -/
theorem legacyRun_known (documented : world.Documented)
    (here : world.rules = base.setNat family table)
    (effect : table.effect command = some next) :
    ∃ failed after, legacyRun family command world = (failed, after) ∧ world.Spent after ∧
      ((∃ errno, failed = some errno) ∧ after.rules = world.rules ∧
          (world.uses world.used).willing = false ∨
        failed = none ∧ after.rules = base.setNat family next) := by
  have ran : (world.rules.nat family).effect command = some next := by
    rw [here, Rules.setNat_nat_self, effect]
  obtain ⟨failed, after, result, spent, outcome⟩ := legacyRun_cases family command documented
  refine ⟨failed, after, result, spent, ?_⟩
  rcases outcome with ⟨failure, same, unwilling | refused⟩ | ⟨none, other, executed, moved⟩
  · exact .inl ⟨failure, same, unwilling⟩
  · rw [ran] at refused
    cases refused
  · rw [ran] at executed
    obtain rfl := Option.some.inj executed
    refine .inr ⟨none, ?_⟩
    rw [moved, here, Rules.setNat_setNat]

theorem World.Clear.willing (clear : world.Clear) : (world.uses world.used).willing = true :=
  clear world.used (Nat.le_refl _)

end Commands

namespace Firewall

variable {firewall : Firewall} {family : Family} {base : Rules} {world : World}

/-- The record with other flags. -/
def marked (firewall : Firewall) (created jumped : Bool) : Firewall :=
  { firewall with
    legacyChainCreated := created
    legacyJumpInstalled := jumped
    installed := jumped || created }

theorem with_chain {created : Bool} (made : firewall.legacyChainCreated = created) :
    { firewall with legacyChainCreated := created } = firewall := by
  subst made
  rfl

theorem with_jump {jumped : Bool} (led : firewall.legacyJumpInstalled = jumped) :
    { firewall with legacyJumpInstalled := jumped } = firewall := by
  subst led
  rfl

theorem rollbackJump_spec {created jumped : Bool} {rules : Rules}
    (documented : world.Documented) (flag : firewall.legacyJumpInstalled = jumped)
    (here : world.rules = rules) (holds : firewall.Holds family base created jumped rules) :
    ∃ failed jumped after,
      firewall.rollbackJump family world =
        (failed, { firewall with legacyJumpInstalled := jumped }, after) ∧
      after.Documented ∧ firewall.Holds family base created jumped after.rules ∧
      (failed = none ↔ jumped = false) ∧ (world.Clear → failed = none ∧ after.Clear) := by
  cases holds with
  | nothing =>
      refine ⟨none, false, world, ?_, documented, here ▸ .nothing, by simp,
        fun able => ⟨rfl, able⟩⟩
      simp only [rollbackJump, flag, Bool.false_eq_true, ↓reduceIte, with_jump flag]
  | chain adds =>
      refine ⟨none, false, world, ?_, documented, here ▸ .chain adds, by simp,
        fun able => ⟨rfl, able⟩⟩
      simp only [rollbackJump, flag, Bool.false_eq_true, ↓reduceIte, with_jump flag]
  | jump adds =>
      obtain ⟨next, effect, adds'⟩ := adds.deleteJump
      obtain ⟨failed, after, result, spent, outcome⟩ := legacyRun_known documented here effect
      simp only [rollbackJump, flag, ↓reduceIte, result]
      rcases outcome with ⟨⟨errno, rfl⟩, same, unwilling⟩ | ⟨rfl, moved⟩
      · refine ⟨some errno, true, after, ?_, spent.documented documented, ?_, by simp, ?_⟩
        · rw [with_jump flag]
        · rw [same, here]
          exact .jump adds
        · intro clear
          rw [clear.willing] at unwilling
          cases unwilling
      · refine ⟨none, false, after, rfl, spent.documented documented, ?_, by simp,
          fun clear => ⟨rfl, spent.clear clear⟩⟩
        rw [moved]
        exact .chain adds'

theorem rollbackChain_spec (firewall : Firewall) {failed : Option Errno} {created jumped : Bool}
    {rules : Rules} (documented : world.Documented)
    (flags : firewall.legacyChainCreated = created ∧ firewall.legacyJumpInstalled = jumped)
    (here : world.rules = rules) (holds : firewall.Holds family base created jumped rules)
    (sofar : failed = none ↔ jumped = false) :
    ∃ failed' created after,
      rollbackChain failed firewall family world =
        (failed', { firewall with legacyChainCreated := created }, after) ∧
      firewall.Holds family base created jumped after.rules ∧
      (failed' = none ↔ created = false) ∧
      (failed = none → world.Clear → failed' = none) := by
  obtain ⟨made, led⟩ := flags
  cases holds with
  | nothing =>
      refine ⟨failed, false, world, ?_, here ▸ .nothing, by simp [sofar], fun none _ => none⟩
      rw [rollbackChain, if_neg (by simp [made]), with_chain made]
  | jump adds =>
      refine ⟨failed, true, world, ?_, here ▸ .jump adds, by simp [sofar], fun none _ => none⟩
      rw [rollbackChain, if_neg (by simp [led]), with_chain made]
  | chain adds =>
      obtain rfl := sofar.mpr rfl
      rw [rollbackChain, if_pos ⟨made, by simp [led]⟩]
      obtain ⟨emptied, effect, empty⟩ := adds.flush
      obtain ⟨flushed, after, result, spent, outcome⟩ := legacyRun_known documented here effect
      simp only [result, Option.getD_none]
      rcases outcome with ⟨⟨errno, rfl⟩, same, unwilling⟩ | ⟨rfl, moved⟩
      · refine ⟨some errno, true, after, ?_, ?_, by simp, ?_⟩
        · rw [with_chain made]
        · rw [same, here]
          exact .chain adds
        · intro _ clear
          rw [clear.willing] at unwilling
          cases unwilling
      · obtain ⟨deleted, last, result', _, outcome'⟩ :=
          legacyRun_known (spent.documented documented) moved empty.deleteChain
        simp only [result']
        rcases outcome' with ⟨⟨errno, rfl⟩, same, unwilling⟩ | ⟨rfl, moved'⟩
        · refine ⟨some errno, true, last, ?_, ?_, by simp, ?_⟩
          · rw [with_chain made]
          · rw [same, moved]
            exact .chain empty
          · intro _ clear
            rw [(spent.clear clear).willing] at unwilling
            cases unwilling
        · refine ⟨none, false, last, rfl, ?_, by simp, fun _ _ => rfl⟩
          rw [moved', Rules.setNat_self]
          exact .nothing

theorem legacyRollback_eq {failed failed' : Option Errno} {unlinked last : Firewall}
    {middle after : World} (first : firewall.rollbackJump family world = (failed, unlinked, middle))
    (second : rollbackChain failed unlinked family middle = (failed', last, after)) :
    firewall.legacyRollback family world =
      (failed', { last with
        installed := last.legacyJumpInstalled || last.legacyChainCreated }, after) := by
  simp only [legacyRollback, first, second]

/-- A rollback leaves nothing exactly when it succeeds, and what it leaves is in the flags. -/
theorem legacyRollback_spec {created jumped : Bool} {rules : Rules}
    (documented : world.Documented)
    (flags : firewall.legacyChainCreated = created ∧ firewall.legacyJumpInstalled = jumped)
    (here : world.rules = rules) (holds : firewall.Holds family base created jumped rules) :
    ∃ failed created jumped after,
      firewall.legacyRollback family world = (failed, firewall.marked created jumped, after) ∧
      firewall.Holds family base created jumped after.rules ∧
      (failed = none ↔ created = false) ∧ (world.Clear → failed = none) := by
  obtain ⟨first, jumped', middle, result, documented', holds', sofar, willing⟩ :=
    rollbackJump_spec documented flags.2 here holds
  let unlinked : Firewall := { firewall with legacyJumpInstalled := jumped' }
  obtain ⟨failed, created', after, result', holds'', final, willing'⟩ :=
    rollbackChain_spec unlinked documented' ⟨flags.1, rfl⟩ rfl holds' sofar
  refine ⟨failed, created', jumped', after, ?_, holds'', final, ?_⟩
  · exact legacyRollback_eq result result'
  · intro clear
    exact willing' (willing clear).1 (willing clear).2

theorem linked_eq_marked (made : firewall.legacyChainCreated = true) :
    { firewall with legacyJumpInstalled := true, installed := true } =
      firewall.marked true true := by
  cases firewall
  cases made
  rfl

/-- How far an installation got: the rules follow the flags, and success means all of them,
with the jump in front. A failure leaves nothing when the rollback could not fail. -/
structure Installed (firewall : Firewall) (family : Family) (base : Rules) (whole : Prop)
    (outcome : Option Errno × Firewall × World) : Prop where
  marked : ∃ created jumped, outcome.2.1 = firewall.marked created jumped ∧
    firewall.Holds family base created jumped outcome.2.2.rules ∧
    (outcome.1 = none → jumped = true) ∧ (outcome.1 ≠ none → whole → created = false)
  first : outcome.1 = none → ∃ table, outcome.2.2.rules = base.setNat family table ∧
    table.prerouting.head? = some firewall.jump

theorem Installed.mono {whole other : Prop} {outcome : Option Errno × Firewall × World}
    (installed : Installed firewall family base whole outcome) (implies : other → whole) :
    Installed firewall family base other outcome := by
  obtain ⟨created, jumped, flags, holds, complete, atomic⟩ := installed.marked
  have atomic' (failure : outcome.1 ≠ none) (able : other) : created = false :=
    atomic failure (implies able)
  exact ⟨⟨created, jumped, flags, holds, complete, atomic'⟩, installed.first⟩

theorem legacyAbort_installed {errno : Errno} {created jumped : Bool} {rules : Rules}
    (documented : world.Documented)
    (flags : firewall.legacyChainCreated = created ∧ firewall.legacyJumpInstalled = jumped)
    (here : world.rules = rules) (holds : firewall.Holds family base created jumped rules) :
    Installed firewall family base world.Clear (legacyAbort errno firewall family world) := by
  obtain ⟨failed, created', jumped', after, result, holds', final, able⟩ :=
    legacyRollback_spec documented flags here holds
  have aborted : legacyAbort errno firewall family world =
      (some errno, firewall.marked created' jumped', after) := by
    simp only [legacyAbort, result]
  rw [aborted]
  refine ⟨⟨created', jumped', rfl, holds', ?_, ?_⟩, ?_⟩
  · intro success
    cases success
  · intro _ clear
    exact final.mp (able clear)
  · intro success
    cases success

theorem legacyAddJump_installed {table : NatTable} (documented : world.Documented)
    (flags : firewall.legacyChainCreated = true ∧ firewall.legacyJumpInstalled = false)
    (here : world.rules = base.setNat family table)
    (adds : (base.nat family).Adds firewall.resourceName [firewall.target family] [] table) :
    Installed firewall family base world.Single (firewall.legacyAddJump family world) := by
  obtain ⟨next, effect, adds', order⟩ :=
    adds.insertJump (show firewall.jump.chain = firewall.resourceName from rfl)
  obtain ⟨failed, after, result, spent, outcome⟩ := legacyRun_known documented here effect
  rw [legacyAddJump, result]
  rcases outcome with ⟨⟨errno, rfl⟩, same, unwilling⟩ | ⟨rfl, moved⟩
  · exact (legacyAbort_installed (spent.documented documented) flags (same.trans here)
      (.chain adds)).mono (spent.clear_of_fault unwilling)
  · refine ⟨⟨true, true, ?_, ?_, fun _ => rfl, ?_⟩, fun _ => ⟨next, moved, ?_⟩⟩
    · exact linked_eq_marked flags.1
    · change firewall.Holds family base true true after.rules
      rw [moved]
      exact .jump adds'
    · intro failure
      exact absurd rfl failure
    · rw [order, List.head?_cons]

theorem legacyAddDnat_installed {table : NatTable} (documented : world.Documented)
    (flags : firewall.legacyChainCreated = true ∧ firewall.legacyJumpInstalled = false)
    (here : world.rules = base.setNat family table)
    (adds : (base.nat family).Adds firewall.resourceName [] [] table) :
    Installed firewall family base world.Single
      (firewall.legacyAddDnat family (firewall.target family) world) := by
  obtain ⟨next, effect, adds'⟩ := adds.appendDnat (firewall.target family)
  obtain ⟨failed, after, result, spent, outcome⟩ := legacyRun_known documented here effect
  rw [legacyAddDnat, result]
  rcases outcome with ⟨⟨errno, rfl⟩, same, unwilling⟩ | ⟨rfl, moved⟩
  · exact (legacyAbort_installed (spent.documented documented) flags (same.trans here)
      (.chain adds)).mono (spent.clear_of_fault unwilling)
  · exact (legacyAddJump_installed (spent.documented documented) flags moved adds').mono
      spent.single

/-- The three rules one by one: without the last, the ones before it are taken back. -/
theorem legacyInstall_installed (tools : Tools) (documented : world.Documented)
    (here : world.rules = base) (idle : firewall.marked false false = firewall)
    (version : familyOf firewall.ipVersion = some family) :
    Installed firewall family base world.Single (firewall.legacyInstall tools world) := by
  have untouched (errno : Errno) (after : World) (kept : after.rules = base) :
      Installed firewall family base world.Single (some errno, firewall, after) := by
    refine ⟨⟨false, false, idle.symm, ?_, ?_, fun _ _ => rfl⟩, ?_⟩
    · rw [kept]
      exact .nothing
    · intro success
      cases success
    · intro success
      cases success
  simp only [legacyInstall, version]
  cases legacyFindTool tools firewall.ipVersion with
  | error errno => exact untouched errno world here
  | ok path =>
      simp only
      split
      · exact untouched .eoverflow world here
      · obtain ⟨failed, after, result, spent, outcome⟩ :=
          legacyRun_cases family (.newChain firewall.resourceName) documented
        rw [result]
        rcases outcome with ⟨⟨errno, rfl⟩, same, _⟩ | ⟨rfl, next, ran, moved⟩
        · exact untouched errno after (same.trans here)
        · rw [here] at ran moved
          cases known : (base.nat family).chains firewall.resourceName with
          | some present =>
              rw [NatTable.effect_newChain_eq_none known] at ran
              cases ran
          | none =>
              obtain ⟨table, effect, adds⟩ := NatTable.effect_newChain known
              rw [effect] at ran
              obtain rfl := Option.some.inj ran
              let begun : Firewall := { firewall with legacyChainCreated := true }
              have flags : begun.legacyChainCreated = true ∧ begun.legacyJumpInstalled = false :=
                ⟨rfl, (congrArg legacyJumpInstalled idle).symm⟩
              have installed := (legacyAddDnat_installed (spent.documented documented) flags moved
                adds).mono spent.single
              exact ⟨installed.marked, installed.first⟩

end Firewall

end TcpShift.Host
