import TcpShift.AddedRules
import TcpShift.Firewall
import TcpShift.Lib.Run

set_option autoImplicit false

/- The firewall record over whole runs: the process installs and removes, any command may
fail, and others change the host in between. What is assumed of the legacy tools, of
libnftables and of the others is said here once. -/
namespace TcpShift.Host

open ServiceConfig (Family Inet)

/-! ### What is assumed of the programs outside -/

/-- A legacy tool does what is documented: it is not killed and `waitpid` tells its status,
which is 0 when the command had its effect and another one when it had none; and nothing but
the table makes a willing tool fail. -/
structure LegacyUse.Documented (use : LegacyUse) : Prop where
  ends : ∀ table command, ∃ status next, use.run table command = (.exited status, next)
  done : ∀ {table command next}, use.run table command = (.exited 0, next) →
    table.effect command = some next
  failed : ∀ {table command status next}, use.run table command = (.exited status, next) →
    status ≠ 0 → next = table
  forks : use.willing = true → use.unforked = none
  able : use.willing = true → ∀ {table command next}, table.effect command = some next →
    (use.run table command).1 = .exited 0

/-- libnftables does what is documented: a dry run changes nothing, and neither does a run that
fails; one that succeeds had the effect of its batch, which nothing but the tables makes a
willing kernel refuse. -/
structure NftUse.Documented (use : NftUse) : Prop where
  dry : ∀ batch tables, (use.run true batch tables).2 = tables
  done : ∀ {batch tables reply next}, use.run false batch tables = (reply, next) →
    reply.succeeded = true → tables.effect batch = some next
  failed : ∀ {batch tables reply next}, use.run false batch tables = (reply, next) →
    reply.succeeded = false → next = tables
  able : use.willing = true → ∀ {batch tables next}, tables.effect batch = some next →
    (use.run false batch tables).1.succeeded = true

def NftAnswer.Documented (answer : NftAnswer NftUse) : Prop :=
  ∀ use, answer = .context use → use.Documented

structure Surroundings.Documented (around : Surroundings) : Prop where
  dry : around.dry.Documented
  commit : around.commit.Documented
  uses : ∀ index, (around.uses index).Documented

/-! ### Runs -/

/-- The process and its host, with the host as it would be without the process. -/
structure Site where
  firewall : Firewall
  rules : Rules
  base : Rules

inductive Event where
  | install (requested : Backend) (spec : Option FirewallSpec) (around : Surroundings)
  | remove (around : Surroundings)
  /-- Others change the nat table of a family, or the tables of nftables. -/
  | nat (family : Family) (change : NatTable → NatTable)
  | nft (change : NftTables → NftTables)

/-- The resource of a record with rules installed. -/
def Firewall.owns (firewall : Firewall) (family : Family) (name : List UInt8) : Bool :=
  firewall.installed && decide (familyOf firewall.ipVersion = some family) &&
    decide (firewall.resourceName = name)

def Rules.changeNat (rules : Rules) (family : Family) (change : NatTable → NatTable) : Rules :=
  rules.setNat family (change (rules.nat family))

def Rules.changeNft (rules : Rules) (change : NftTables → NftTables) : Rules :=
  { rules with nft := change rules.nft }

namespace Site

/-- What others do, they do to the host as it would be without the process, too. -/
def step (inet : Inet) (site : Site) : Event → Option Site
  | .install requested spec around =>
      let (_, firewall, rules) := site.firewall.install inet requested spec around site.rules
      some { site with firewall := firewall, rules := rules }
  | .remove around =>
      let (_, firewall, rules) := site.firewall.remove around site.rules
      some { site with firewall := firewall, rules := rules }
  | .nat family change =>
      some { site with
        rules := site.rules.changeNat family change
        base := site.base.changeNat family change }
  | .nft change =>
      some { site with
        rules := site.rules.changeNft change
        base := site.base.changeNft change }

abbrev run (inet : Inet) : Site → List Event → Option Site := Run.run (step inet)

/-- The programs the process calls do what is documented, and others keep their hands off the
resource while the process owns it. -/
def Fair (site : Site) : Event → Prop
  | .install _ _ around => around.Documented
  | .remove around => around.Documented
  | .nat family change =>
      ∀ name, site.firewall.owns family name = true → NatTable.KeepsOff name change
  | .nft change =>
      ∀ family name, site.firewall.owns family name = true → NftTables.KeepsOff family name change

/-- A process that starts on a host. -/
def start (rules : Rules) : Site := { firewall := .zero, rules := rules, base := rules }

end Site

namespace Firewall

def target (firewall : Firewall) (family : Family) : List UInt8 :=
  destination family firewall.targetAddress firewall.targetPort

/-- What a legacy record with these flags has added to the host, and nothing else. -/
inductive LegacyRules (chain target : List UInt8) (jump : Jump) (family : Family) (base : Rules) :
    Bool → Bool → Rules → Prop where
  | nothing : LegacyRules chain target jump family base false false base
  | chain {rules : List (List UInt8)} {table : NatTable}
      (adds : (base.nat family).Adds chain rules [] table) :
      LegacyRules chain target jump family base true false (base.setNat family table)
  | jump {table : NatTable} (adds : (base.nat family).Adds chain [target] [jump] table) :
      LegacyRules chain target jump family base true true (base.setNat family table)

abbrev Holds (firewall : Firewall) (family : Family) (base : Rules) :
    Bool → Bool → Rules → Prop :=
  LegacyRules firewall.resourceName (firewall.target family) firewall.jump family base

/-- The record says exactly what the host has more than it would have without the process. -/
inductive Tracks (firewall : Firewall) (base : Rules) : Rules → Prop where
  | idle (idle : firewall.installed = false) (created : firewall.legacyChainCreated = false)
      (jumped : firewall.legacyJumpInstalled = false) : Tracks firewall base base
  | nftables {family : Family} (installed : firewall.installed = true)
      (backend : firewall.backend = .nftables) (version : familyOf firewall.ipVersion = some family)
      (created : firewall.legacyChainCreated = false)
      (jumped : firewall.legacyJumpInstalled = false)
      (absent : base.nft family firewall.resourceName = none) :
      Tracks firewall base
        (base.setNft family firewall.resourceName (some (firewall.nftContent family)))
  | iptables {family : Family} {rules : Rules} (installed : firewall.installed = true)
      (backend : firewall.backend = .iptables) (version : familyOf firewall.ipVersion = some family)
      (created : firewall.legacyChainCreated = true)
      (holds : firewall.Holds family base true firewall.legacyJumpInstalled rules) :
      Tracks firewall base rules

end Firewall

end TcpShift.Host
