import TcpShift.FirewallTracks

set_option autoImplicit false

/- What the process leaves on its host: the record knows it in every run, a removal that
succeeds takes all of it away, and one that failed can be tried again. -/
namespace TcpShift.Host

open CString
open ServiceConfig (Family Inet)

section Samples

/-- A host without rules of its own. -/
def bareRules : Rules where
  nat := fun _ =>
    { chains := fun _ => none, prerouting := [], resolves := fun _ member => by cases member }
  nft := fun _ _ => none

def literalInet : Inet where
  pton := fun _ text => some text
  ntop := fun _ packed => packed

def sampleSpec : FirewallSpec where
  ipVersion := 4
  resourceName := some (ascii "tcp_shift_p2")
  publicAddress := some (ascii "203.0.113.7")
  publicPort := 443
  targetAddress := some (ascii "10.0.0.2")
  targetPort := 443

/-- One use of `iptables`; without its lock it exits with 4. -/
def sampleTool (willing : Bool) : LegacyUse where
  run table command :=
    match willing, table.effect command with
    | true, some next => (.exited 0, next)
    | true, none => (.exited 1, table)
    | false, _ => (.exited 4, table)
  willing := willing

theorem sampleTool_documented (willing : Bool) : (sampleTool willing).Documented where
  ends := by
    intro table command
    cases willing with
    | false => exact ⟨4, table, rfl⟩
    | true =>
        cases ran : table.effect command with
        | none => exact ⟨1, table, by simp only [sampleTool, ran]⟩
        | some next => exact ⟨0, next, by simp only [sampleTool, ran]⟩
  done := by
    intro table command next
    cases willing with
    | false => simp [sampleTool]
    | true => cases ran : table.effect command <;> simp [sampleTool, ran]
  failed := by
    intro table command status next
    cases willing with
    | false =>
        simp only [sampleTool, Prod.mk.injEq]
        exact fun used _ => used.2.symm
    | true =>
        cases ran : table.effect command with
        | none =>
            simp only [sampleTool, ran, Prod.mk.injEq]
            exact fun used _ => used.2.symm
        | some next =>
            simp only [sampleTool, ran, Prod.mk.injEq, ChildEnd.exited.injEq]
            exact fun used other => absurd used.1.symm other
  forks := fun _ => rfl
  able := by
    intro able table command next ran
    obtain rfl : willing = true := able
    simp only [sampleTool, ran]

/-- One use of libnftables, which a process without the capability is refused. -/
def sampleNft (willing : Bool) : NftUse where
  run dryRun batch tables :=
    match willing, tables.effect batch with
    | true, some next =>
        ({ succeeded := true, errno := none, message := none }, if dryRun then tables else next)
    | _, _ => ({ succeeded := false, errno := some .eperm, message := none }, tables)
  willing := willing

theorem sampleNft_documented (willing : Bool) : (sampleNft willing).Documented where
  dry := by
    intro batch tables
    cases willing with
    | false => rfl
    | true => cases ran : tables.effect batch <;> simp [sampleNft, ran]
  done := by
    intro batch tables reply next
    cases willing with
    | false =>
        simp only [sampleNft, Prod.mk.injEq]
        rintro ⟨rfl, _⟩ succeeded
        cases succeeded
    | true =>
        cases ran : tables.effect batch with
        | none =>
            simp only [sampleNft, ran, Prod.mk.injEq]
            rintro ⟨rfl, _⟩ succeeded
            cases succeeded
        | some after =>
            simp only [sampleNft, ran, Prod.mk.injEq]
            rintro ⟨_, rfl⟩ _
            rfl
  failed := by
    intro batch tables reply next
    cases willing with
    | false =>
        simp only [sampleNft, Prod.mk.injEq]
        exact fun used _ => used.2.symm
    | true =>
        cases ran : tables.effect batch with
        | none =>
            simp only [sampleNft, ran, Prod.mk.injEq]
            exact fun used _ => used.2.symm
        | some after =>
            simp only [sampleNft, ran, Prod.mk.injEq]
            rintro ⟨rfl, _⟩ failed
            cases failed
  able := by
    intro able batch tables next ran
    obtain rfl : willing = true := able
    simp only [sampleNft, ran]

/-- No libnftables; the legacy tool is there. -/
def legacyHost (willing : Nat → Bool) : Surroundings where
  probe := .unavailable
  dry := .unavailable
  commit := .unavailable
  tools := {
    executable := fun path => path = ascii "/usr/sbin/iptables-legacy"
    nfTables := fun _ => none }
  uses := fun index => sampleTool (willing index)

theorem legacyHost_documented (willing : Nat → Bool) : (legacyHost willing).Documented where
  dry := by rintro use ⟨⟩
  commit := by rintro use ⟨⟩
  uses := fun index => sampleTool_documented (willing index)

/-- libnftables is there, and no legacy tool. -/
def nftHost : Surroundings where
  probe := .context { succeeded := true, errno := none, message := none }
  dry := .context (sampleNft true)
  commit := .context (sampleNft true)
  tools := { executable := fun _ => false, nfTables := fun _ => none }
  uses := fun _ => sampleTool false

theorem nftHost_documented : nftHost.Documented where
  dry := by
    rintro use ⟨⟩
    exact sampleNft_documented true
  commit := by
    rintro use ⟨⟩
    exact sampleNft_documented true
  uses := fun _ => sampleTool_documented false

/-- The jump is refused, and so is the flush of the rollback; a chain of others comes. -/
def halfRolledBack : List Event :=
  [.install .auto (some sampleSpec) (legacyHost fun index => index ≠ 2 ∧ index ≠ 3),
    .nat .v4 fun table => (table.effect (.newChain (ascii "DOCKER"))).getD table]

end Samples

namespace Site

variable {inet : Inet}

theorem halfRolledBack_fair :
    Run.Meets Fair (step literalInet) (start bareRules) halfRolledBack := by
  intro site installed
  refine ⟨legacyHost_documented _, fun next _ => ⟨?_, trivial⟩⟩
  intro name owned
  apply NatTable.keepsOff_effect
  rintro rfl
  have apart : (step literalInet (start bareRules) (.install .auto (some sampleSpec)
      (legacyHost fun index => index ≠ 2 ∧ index ≠ 3))).map
        (fun site => site.firewall.owns .v4 (ascii "DOCKER")) = some false := by
    decide +kernel
  rw [installed, Option.map_some, Option.some.injEq] at apart
  exact Bool.false_ne_true (apart.symm.trans owned)

theorem step_tracks {site next : Site} {event : Event}
    (tracks : site.firewall.Tracks site.base site.rules) (fair : site.Fair event)
    (stepped : step inet site event = some next) :
    next.firewall.Tracks next.base next.rules := by
  cases event with
  | install requested spec around =>
      cases stepped
      exact Firewall.install_agree inet requested spec fair tracks
  | remove around =>
      cases stepped
      exact (Firewall.remove_removed fair tracks).agree
  | nat family change =>
      cases stepped
      exact tracks.nat fair
  | nft change =>
      cases stepped
      exact tracks.nft fair

/-- Whatever fails and whatever others do next to the resource of the process, the record says
at every moment exactly what the host has more than it would have without the process. -/
theorem run_tracks (rules : Rules) (events : List Event) {site : Site}
    (fair : Run.Meets Fair (step inet) (start rules) events)
    (ran : run inet (start rules) events = some site) :
    site.firewall.Tracks site.base site.rules := by
  have along := Run.along_of_meets
    (fun site : Site => site.firewall.Tracks site.base site.rules)
    (fun _ tracks => tracks)
    (fun _ _ _ tracks allowed stepped => step_tracks tracks allowed stepped)
    (.idle rfl rfl rfl) fair
  exact along.final ran

theorem run_tracks_sample :
    ∃ site, run literalInet (start bareRules) halfRolledBack = some site ∧
      site.firewall.installed = true ∧ site.firewall.legacyJumpInstalled = false ∧
      site.firewall.Tracks site.base site.rules := by
  obtain ⟨site, ran⟩ := Option.isSome_iff_exists.mp
    (show (run literalInet (start bareRules) halfRolledBack).isSome by decide +kernel)
  have flags : (run literalInet (start bareRules) halfRolledBack).map (fun site =>
      (site.firewall.installed, site.firewall.legacyJumpInstalled)) = some (true, false) := by
    decide +kernel
  simp only [ran, Option.map_some, Option.some.injEq, Prod.mk.injEq] at flags
  exact ⟨site, ran, flags.1, flags.2,
    run_tracks bareRules halfRolledBack halfRolledBack_fair ran⟩

/-- A removal that returns 0 leaves the host as it would be without the process, and it
returns 0 as soon as nothing outside the tables stands in its way, whatever failed before. -/
theorem run_remove {rules : Rules} {events : List Event} {site : Site}
    (fair : Run.Meets Fair (step inet) (start rules) events)
    (ran : run inet (start rules) events = some site) {around : Surroundings}
    (documented : around.Documented) :
    ((site.firewall.remove around site.rules).1 = none →
      (site.firewall.remove around site.rules).2.2 = site.base) ∧
    (around.Willing site.firewall →
      (site.firewall.remove around site.rules).1 = none) := by
  have removed := Firewall.remove_removed documented (run_tracks rules events fair ran)
  exact ⟨fun success => removed.agree.rules_eq (removed.emptied success), removed.able⟩

theorem run_remove_sample :
    ∃ site, run literalInet (start bareRules) halfRolledBack = some site ∧
      site.firewall.installed = true ∧
      (site.firewall.remove (legacyHost fun _ => true) site.rules).1 = none ∧
      (site.firewall.remove (legacyHost fun _ => true) site.rules).2.2 = site.base := by
  obtain ⟨site, ran⟩ := Option.isSome_iff_exists.mp
    (show (run literalInet (start bareRules) halfRolledBack).isSome by decide +kernel)
  have record : (run literalInet (start bareRules) halfRolledBack).map (fun site =>
      (site.firewall.installed, site.firewall.backend, site.firewall.ipVersion)) =
        some (true, .iptables, 4) := by
    decide +kernel
  simp only [ran, Option.map_some, Option.some.injEq, Prod.mk.injEq] at record
  obtain ⟨installed, backend, version⟩ := record
  have tool : legacyFindTool (legacyHost fun _ => true).tools 4 =
      .ok (ascii "/usr/sbin/iptables-legacy") := by
    decide +kernel
  have willing : (legacyHost fun _ => true).Willing site.firewall := by
    simp only [Surroundings.Willing, backend, version]
    exact ⟨⟨_, tool⟩, fun _ => rfl⟩
  obtain ⟨clean, able⟩ := run_remove halfRolledBack_fair ran (legacyHost_documented fun _ => true)
  exact ⟨site, ran, installed, able willing, clean (able willing)⟩

/-- An installation during which at most one tool meets a fault is all or nothing. -/
theorem run_install_atomic {rules : Rules} {events : List Event} {site : Site}
    (fair : Run.Meets Fair (step inet) (start rules) events)
    (ran : run inet (start rules) events = some site) (idle : site.firewall.installed = false)
    {requested : Backend} {spec : Option FirewallSpec} {around : Surroundings}
    (documented : around.Documented) (single : around.Single)
    (failure : (site.firewall.install inet requested spec around site.rules).1 ≠ none) :
    (site.firewall.install inet requested spec around site.rules).2.1.installed = false ∧
      (site.firewall.install inet requested spec around site.rules).2.2 = site.rules := by
  have tracks := run_tracks rules events fair ran
  have emptied := Firewall.install_atomic requested spec documented tracks idle single failure
  have agree := Firewall.install_agree inet requested spec documented tracks
  exact ⟨emptied, (agree.rules_eq emptied).trans (tracks.rules_eq idle).symm⟩

theorem run_install_atomic_sample :
    ((start bareRules).firewall.install literalInet .iptables (some sampleSpec)
        (legacyHost fun index => index ≠ 1) bareRules).2.2 = bareRules :=
  (run_install_atomic (show Run.Meets Fair (step literalInet) (start bareRules) [] from trivial)
    (show run literalInet (start bareRules) [] = some (start bareRules) from rfl) rfl
    (legacyHost_documented fun index => index ≠ 1)
    ⟨1, fun _ other => decide_eq_true other⟩ (by decide +kernel)).2

/-- An installation that returns 0 sends the public port, and nothing else, to the target. -/
theorem run_install_forwards {rules : Rules} {events : List Event} {site : Site}
    (fair : Run.Meets Fair (step inet) (start rules) events)
    (ran : run inet (start rules) events = some site) {requested : Backend}
    (wanted : requested ≠ .none) {spec : FirewallSpec} {around : Surroundings}
    (documented : around.Documented)
    (success : (site.firewall.install inet requested (some spec) around site.rules).1 = none) :
    ∃ prepared family, Firewall.Prepared inet spec prepared ∧
      familyOf spec.ipVersion = some family ∧
      Firewall.Forwards prepared family site.rules
        (site.firewall.install inet requested (some spec) around site.rules).2.2 :=
  Firewall.install_forwards documented (run_tracks rules events fair ran) wanted success

theorem run_install_forwards_sample :
    (∃ prepared family, Firewall.Prepared literalInet sampleSpec prepared ∧
      familyOf sampleSpec.ipVersion = some family ∧
      Firewall.Forwards prepared family bareRules
        ((start bareRules).firewall.install literalInet .auto (some sampleSpec)
          (legacyHost fun _ => true) bareRules).2.2) ∧
    ∃ prepared family, Firewall.Prepared literalInet sampleSpec prepared ∧
      familyOf sampleSpec.ipVersion = some family ∧
      Firewall.Forwards prepared family bareRules
        ((start bareRules).firewall.install literalInet .auto (some sampleSpec)
          nftHost bareRules).2.2 := by
  have forwards (around : Surroundings) (documented : around.Documented)
      (success : ((start bareRules).firewall.install literalInet .auto (some sampleSpec)
        around bareRules).1 = none) :
      ∃ prepared family, Firewall.Prepared literalInet sampleSpec prepared ∧
        familyOf sampleSpec.ipVersion = some family ∧
        Firewall.Forwards prepared family bareRules
          ((start bareRules).firewall.install literalInet .auto (some sampleSpec)
            around bareRules).2.2 :=
    run_install_forwards (show Run.Meets Fair (step literalInet) (start bareRules) [] from trivial)
      (show run literalInet (start bareRules) [] = some (start bareRules) from rfl) (by decide)
      documented success
  exact ⟨forwards _ (legacyHost_documented fun _ => true) (by decide +kernel),
    forwards _ nftHost_documented (by decide +kernel)⟩

end Site

end TcpShift.Host
