import TcpShift.ServiceConfig

set_option autoImplicit false

/- What the host keeps of the firewall commands it is given: the nat table of each family and
the tables of nftables, and what the manuals say that a command does to them. -/
namespace TcpShift.Host

open ServiceConfig (Family)

/-- A rule of PREROUTING that sends `tcp` for one address and port to a chain. -/
structure Jump where
  address : List UInt8
  port : List UInt8
  chain : List UInt8
deriving DecidableEq

/-- The nat table: each chain with its DNAT rules, which are their destinations, and the
jumps of PREROUTING. A chain that a jump leads to is not deleted. -/
structure NatTable where
  chains : List UInt8 → Option (List (List UInt8))
  prerouting : List Jump
  resolves : ∀ jump ∈ prerouting, (chains jump.chain).isSome

/-- `-N`, `-A … -j DNAT`, `-I PREROUTING 1`, `-D PREROUTING`, `-F` and `-X`. -/
inductive NatCommand where
  | newChain (chain : List UInt8)
  | appendDnat (chain destination : List UInt8)
  | insertJump (jump : Jump)
  | deleteJump (jump : Jump)
  | flush (chain : List UInt8)
  | deleteChain (chain : List UInt8)
deriving DecidableEq

/-- The chain a command names. -/
def NatCommand.chain : NatCommand → List UInt8
  | .newChain chain => chain
  | .appendDnat chain _ => chain
  | .insertJump jump => jump.chain
  | .deleteJump jump => jump.chain
  | .flush chain => chain
  | .deleteChain chain => chain

namespace NatTable

@[ext] theorem ext {first second : NatTable} (chains : first.chains = second.chains)
    (prerouting : first.prerouting = second.prerouting) : first = second := by
  cases first
  cases second
  simp_all

/-- A chain with the rules given to it. -/
def setChain (table : NatTable) (chain : List UInt8) (rules : List (List UInt8)) : NatTable where
  chains := Function.update table.chains chain (some rules)
  prerouting := table.prerouting
  resolves := by
    intro jump member
    by_cases same : jump.chain = chain
    · rw [same, Function.update_self]
      rfl
    · rw [Function.update_of_ne same]
      exact table.resolves jump member

/-- The table without a chain and without the jumps to it. -/
def without (table : NatTable) (chain : List UInt8) : NatTable where
  chains := Function.update table.chains chain none
  prerouting := table.prerouting.filter (fun jump => jump.chain ≠ chain)
  resolves := by
    intro jump member
    obtain ⟨member, other⟩ := List.mem_filter.mp member
    rw [Function.update_of_ne (of_decide_eq_true other)]
    exact table.resolves jump member

/-- A jump in front of the others. -/
def addJump (table : NatTable) (jump : Jump) (known : (table.chains jump.chain).isSome) :
    NatTable where
  chains := table.chains
  prerouting := jump :: table.prerouting
  resolves := by
    intro other member
    rcases List.mem_cons.mp member with same | member
    · rwa [same]
    · exact table.resolves other member

def eraseJump (table : NatTable) (jump : Jump) : NatTable where
  chains := table.chains
  prerouting := table.prerouting.erase jump
  resolves := fun other member => table.resolves other (List.mem_of_mem_erase member)

/-- The effect that `iptables(8)` documents for a command, `none` where it documents a
failure. Only assumptions about the tools and their uses speak of it. -/
def effect (table : NatTable) : NatCommand → Option NatTable
  | .newChain chain =>
      match table.chains chain with
      | some _ => none
      | none => some (table.setChain chain [])
  | .appendDnat chain destination =>
      (table.chains chain).map fun rules => table.setChain chain (rules ++ [destination])
  | .insertJump jump =>
      if known : (table.chains jump.chain).isSome then some (table.addJump jump known) else none
  | .deleteJump jump =>
      if jump ∈ table.prerouting then some (table.eraseJump jump) else none
  | .flush chain => (table.chains chain).map fun _ => table.setChain chain []
  | .deleteChain chain =>
      if table.chains chain = some [] ∧ ∀ jump ∈ table.prerouting, jump.chain ≠ chain then
        some (table.without chain)
      else none

/-- Where a new connection is sent: the jumps are tried in order, and a chain that rewrites
the destination ends the search. `hits` is whether the connection goes to the address and
port that a jump gives, in whatever way the kernel reads them. -/
def redirect (table : NatTable) (hits : List UInt8 → List UInt8 → Bool) : Option (List UInt8) :=
  table.prerouting.findSome? fun jump =>
    if hits jump.address jump.port then (table.chains jump.chain).bind List.head? else none

/-- A change by others that neither looks at a chain and the jumps to it nor touches them. -/
structure KeepsOff (chain : List UInt8) (change : NatTable → NatTable) : Prop where
  rest : ∀ table, (change table).without chain = change (table.without chain)
  rules : ∀ table, (change table).chains chain = table.chains chain
  jumps : ∀ table, (change table).prerouting.filter (fun jump => jump.chain = chain) =
    table.prerouting.filter (fun jump => jump.chain = chain)

end NatTable

/-- A table of nftables with its prerouting chain and the one rule in it. -/
structure NftTable where
  address : List UInt8
  port : Nat
  destination : List UInt8
deriving DecidableEq

/-- What libnftables is asked to do in one transaction. -/
inductive NftBatch where
  | create (family : Family) (name : List UInt8) (content : NftTable)
  | delete (family : Family) (name : List UInt8)
deriving DecidableEq

def NftBatch.family : NftBatch → Family
  | .create family _ _ => family
  | .delete family _ => family

def NftBatch.name : NftBatch → List UInt8
  | .create _ name _ => name
  | .delete _ name => name

abbrev NftTables := Family → List UInt8 → Option NftTable

def NftTables.set (tables : NftTables) (family : Family) (name : List UInt8)
    (content : Option NftTable) : NftTables :=
  Function.update tables family (Function.update (tables family) name content)

/-- The effect that `nft(8)` documents for a batch: `create table` refuses a table that is
there, `delete table` one that is not. Only assumptions about libnftables speak of it. -/
def NftTables.effect (tables : NftTables) : NftBatch → Option NftTables
  | .create family name content =>
      match tables family name with
      | some _ => none
      | none => some (tables.set family name (some content))
  | .delete family name =>
      match tables family name with
      | some _ => some (tables.set family name none)
      | none => none

/-- A change by others that neither looks at a table nor touches it. -/
structure NftTables.KeepsOff (family : Family) (name : List UInt8)
    (change : NftTables → NftTables) : Prop where
  rest : ∀ tables content,
    change (NftTables.set tables family name content) =
      NftTables.set (change tables) family name content
  kept : ∀ tables, change tables family name = tables family name

structure Rules where
  nat : Family → NatTable
  nft : NftTables

namespace Rules

def setNat (rules : Rules) (family : Family) (table : NatTable) : Rules :=
  { rules with nat := Function.update rules.nat family table }

def setNft (rules : Rules) (family : Family) (name : List UInt8) (content : Option NftTable) :
    Rules :=
  { rules with nft := rules.nft.set family name content }

end Rules

end TcpShift.Host
