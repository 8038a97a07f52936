import TcpShift.HostRules

set_option autoImplicit false

/- A nat table as a base and one chain added to it, with the jumps to that chain: each
command moves either the base or what was added. -/
namespace TcpShift.Host

open ServiceConfig (Family)

namespace NatTable

/-- The table is the base with one more chain, its rules, and the jumps to it. -/
structure Adds (base : NatTable) (chain : List UInt8) (rules : List (List UInt8))
    (jumps : List Jump) (table : NatTable) : Prop where
  rest : table.without chain = base
  rules_eq : table.chains chain = some rules
  jumps_eq : table.prerouting.filter (fun jump => jump.chain = chain) = jumps

variable {base table next : NatTable} {chain : List UInt8} {rules : List (List UInt8)}
  {jumps : List Jump}

@[simp] theorem without_chains_self (table : NatTable) (chain : List UInt8) :
    (table.without chain).chains chain = none := by
  simp [without]

theorem without_chains_of_ne (table : NatTable) {chain other : List UInt8}
    (apart : other ≠ chain) : (table.without chain).chains other = table.chains other := by
  simp [without, apart]

@[simp] theorem mem_without {jump : Jump} :
    jump ∈ (table.without chain).prerouting ↔ jump ∈ table.prerouting ∧ jump.chain ≠ chain := by
  simp [without]

theorem no_jump_of_absent (absent : table.chains chain = none) {jump : Jump}
    (member : jump ∈ table.prerouting) : jump.chain ≠ chain := by
  intro same
  have known := table.resolves jump member
  rw [same, absent] at known
  cases known

theorem without_of_absent (absent : table.chains chain = none) : table.without chain = table := by
  apply NatTable.ext
  · change Function.update table.chains chain none = table.chains
    rw [← absent, Function.update_eq_self]
  · apply List.filter_eq_self.mpr
    intro jump member
    exact decide_eq_true (no_jump_of_absent absent member)

theorem without_setChain (table : NatTable) (chain : List UInt8) (rules : List (List UInt8)) :
    (table.setChain chain rules).without chain = table.without chain := by
  apply NatTable.ext
  · simp [without, setChain]
  · rfl

theorem without_setChain_of_ne (table : NatTable) {chain other : List UInt8}
    (apart : other ≠ chain) (rules : List (List UInt8)) :
    (table.setChain other rules).without chain = (table.without chain).setChain other rules := by
  apply NatTable.ext
  · exact Function.update_comm apart _ _ _
  · rfl

theorem without_without (table : NatTable) (chain other : List UInt8) :
    (table.without other).without chain = (table.without chain).without other := by
  apply NatTable.ext
  · by_cases same : other = chain
    · rw [same]
    · exact Function.update_comm same _ _ _
  · simp only [without, List.filter_filter, Bool.and_comm]

theorem Adds.absent (adds : Adds base chain rules jumps table) : base.chains chain = none := by
  rw [← adds.rest, without_chains_self]

theorem Adds.jump_chain (adds : Adds base chain rules jumps table) {jump : Jump}
    (member : jump ∈ jumps) : jump ∈ table.prerouting ∧ jump.chain = chain := by
  rw [← adds.jumps_eq] at member
  simpa using member

/-- A new chain is there, empty and without jumps. -/
theorem effect_newChain (absent : base.chains chain = none) :
    ∃ table, base.effect (.newChain chain) = some table ∧ Adds base chain [] [] table := by
  refine ⟨base.setChain chain [], by simp only [effect, absent], ?_, ?_, ?_⟩
  · rw [without_setChain, without_of_absent absent]
  · simp [setChain]
  · apply List.filter_eq_nil_iff.mpr
    intro jump member same
    exact no_jump_of_absent absent member (of_decide_eq_true same)

theorem effect_newChain_eq_none {present : List (List UInt8)}
    (known : table.chains chain = some present) : table.effect (.newChain chain) = none := by
  simp only [effect, known]

/-- The rules of the added chain can be replaced. -/
theorem Adds.setChain (adds : Adds base chain rules jumps table) (given : List (List UInt8)) :
    Adds base chain given jumps (table.setChain chain given) where
  rest := by rw [without_setChain, adds.rest]
  rules_eq := by simp [NatTable.setChain]
  jumps_eq := adds.jumps_eq

theorem Adds.appendDnat (adds : Adds base chain rules jumps table) (destination : List UInt8) :
    ∃ next, table.effect (.appendDnat chain destination) = some next ∧
      Adds base chain (rules ++ [destination]) jumps next := by
  refine ⟨_, ?_, adds.setChain (rules ++ [destination])⟩
  simp only [effect, adds.rules_eq, Option.map_some]

theorem Adds.flush (adds : Adds base chain rules jumps table) :
    ∃ next, table.effect (.flush chain) = some next ∧ Adds base chain [] jumps next := by
  refine ⟨_, ?_, adds.setChain []⟩
  simp only [effect, adds.rules_eq, Option.map_some]

theorem Adds.insertJump (adds : Adds base chain rules jumps table) {jump : Jump}
    (leads : jump.chain = chain) :
    ∃ next, table.effect (.insertJump jump) = some next ∧
      Adds base chain rules (jump :: jumps) next ∧
      next.prerouting = jump :: table.prerouting := by
  have known : (table.chains jump.chain).isSome := by
    rw [leads, adds.rules_eq]
    rfl
  refine ⟨table.addJump jump known, by simp only [effect, known, ↓reduceDIte], ⟨?_, ?_, ?_⟩, rfl⟩
  · rw [← adds.rest]
    apply NatTable.ext
    · rfl
    · simp [without, addJump, leads]
  · exact adds.rules_eq
  · simp [addJump, leads, ← adds.jumps_eq]

theorem Adds.deleteJump {jump : Jump} (adds : Adds base chain rules [jump] table) :
    ∃ next, table.effect (.deleteJump jump) = some next ∧ Adds base chain rules [] next := by
  obtain ⟨member, leads⟩ := adds.jump_chain List.mem_cons_self
  refine ⟨table.eraseJump jump, by simp only [effect, member, ↓reduceIte], ?_, ?_, ?_⟩
  · rw [← adds.rest]
    apply NatTable.ext
    · rfl
    · have gone : jump ∉ table.prerouting.filter (fun other => other.chain ≠ chain) := by
        simp [leads]
      change (table.prerouting.erase jump).filter _ = table.prerouting.filter _
      rw [← List.erase_filter, List.erase_of_not_mem gone]
  · exact adds.rules_eq
  · change (table.prerouting.erase jump).filter _ = []
    rw [← List.erase_filter, adds.jumps_eq, List.erase_cons_head]

theorem Adds.deleteChain (adds : Adds base chain [] [] table) :
    table.effect (.deleteChain chain) = some base := by
  have unreferenced : ∀ jump ∈ table.prerouting, jump.chain ≠ chain := by
    intro jump member leads
    have kept := List.filter_eq_nil_iff.mp adds.jumps_eq jump member
    exact kept (decide_eq_true leads)
  rw [effect, if_pos ⟨adds.rules_eq, unreferenced⟩, adds.rest]

section Foreign

variable {command : NatCommand}

/-- A command about another chain does to the base what it does to the table. -/
theorem effect_without (apart : command.chain ≠ chain) :
    (table.without chain).effect command =
      (table.effect command).map (fun next => next.without chain) := by
  cases command with
  | newChain other =>
      have apart : other ≠ chain := apart
      simp only [effect, without_chains_of_ne table apart]
      cases table.chains other with
      | some present => rfl
      | none => simp only [Option.map_some, without_setChain_of_ne table apart]
  | appendDnat other destination =>
      have apart : other ≠ chain := apart
      simp only [effect, without_chains_of_ne table apart, Option.map_map]
      congr 1
      funext present
      exact (without_setChain_of_ne table apart _).symm
  | flush other =>
      have apart : other ≠ chain := apart
      simp only [effect, without_chains_of_ne table apart, Option.map_map]
      congr 1
      funext present
      exact (without_setChain_of_ne table apart _).symm
  | insertJump jump =>
      have apart : jump.chain ≠ chain := apart
      simp only [effect, without_chains_of_ne table apart]
      by_cases known : (table.chains jump.chain).isSome
      · simp only [known, ↓reduceDIte, Option.map_some, Option.some.injEq]
        apply NatTable.ext
        · rfl
        · simp [without, addJump, apart]
      · simp [known]
  | deleteJump jump =>
      have apart : jump.chain ≠ chain := apart
      simp only [effect, mem_without, apart, ne_eq, not_false_eq_true, and_true]
      by_cases member : jump ∈ table.prerouting
      · simp only [member, ↓reduceIte, Option.map_some, Option.some.injEq]
        apply NatTable.ext
        · rfl
        · simp only [without, eraseJump, List.erase_filter]
      · simp [member]
  | deleteChain other =>
      have apart : other ≠ chain := apart
      have same : (∀ jump ∈ (table.without chain).prerouting, jump.chain ≠ other) ↔
          ∀ jump ∈ table.prerouting, jump.chain ≠ other := by
        constructor
        · intro unreferenced jump member leads
          have kept : jump.chain ≠ chain := leads ▸ apart
          exact unreferenced jump (mem_without.mpr ⟨member, kept⟩) leads
        · intro unreferenced jump member
          exact unreferenced jump (mem_without.mp member).1
      simp only [effect, without_chains_of_ne table apart, same]
      split
      · simp only [Option.map_some, without_without table chain other]
      · rfl

/-- It also leaves the rules of the chain and the jumps to it alone. -/
theorem effect_foreign (apart : command.chain ≠ chain) (ran : table.effect command = some next) :
    next.chains chain = table.chains chain ∧
      next.prerouting.filter (fun jump => jump.chain = chain) =
        table.prerouting.filter (fun jump => jump.chain = chain) := by
  have apart' : chain ≠ command.chain := Ne.symm apart
  cases command with
  | newChain other =>
      simp only [effect] at ran
      split at ran
      · cases ran
      · cases ran
        exact ⟨Function.update_of_ne apart' _ _, rfl⟩
  | appendDnat other destination =>
      obtain ⟨present, _, rfl⟩ := Option.map_eq_some_iff.mp ran
      exact ⟨Function.update_of_ne apart' _ _, rfl⟩
  | flush other =>
      obtain ⟨present, _, rfl⟩ := Option.map_eq_some_iff.mp ran
      exact ⟨Function.update_of_ne apart' _ _, rfl⟩
  | insertJump jump =>
      have apart : jump.chain ≠ chain := apart
      simp only [effect] at ran
      split at ran
      · cases ran
        exact ⟨rfl, by simp [addJump, apart]⟩
      · cases ran
  | deleteJump jump =>
      have apart : jump.chain ≠ chain := apart
      simp only [effect] at ran
      split at ran
      · cases ran
        refine ⟨rfl, ?_⟩
        have gone : jump ∉ table.prerouting.filter (fun other => other.chain = chain) := by
          simp [apart]
        change (table.prerouting.erase jump).filter _ = _
        rw [← List.erase_filter, List.erase_of_not_mem gone]
      · cases ran
  | deleteChain other =>
      have apart : other ≠ chain := apart
      simp only [effect] at ran
      split at ran
      · cases ran
        refine ⟨without_chains_of_ne table apart', ?_⟩
        simp only [without, List.filter_filter]
        apply List.filter_congr
        intro jump _
        by_cases leads : jump.chain = chain
        · simp [leads, Ne.symm apart]
        · simp [leads]
      · cases ran

/-- The documented commands about other chains keep off a chain. -/
theorem keepsOff_effect (apart : command.chain ≠ chain) :
    KeepsOff chain fun table => (table.effect command).getD table where
  rest := by
    intro table
    rw [effect_without apart]
    cases table.effect command <;> rfl
  rules := by
    intro table
    cases ran : table.effect command with
    | none => rfl
    | some next => exact (effect_foreign apart ran).1
  jumps := by
    intro table
    cases ran : table.effect command with
    | none => rfl
    | some next => exact (effect_foreign apart ran).2

/-- What others do to the rest of the table they do to the base. -/
theorem Adds.foreign {change : NatTable → NatTable} (adds : Adds base chain rules jumps table)
    (apart : KeepsOff chain change) : Adds (change base) chain rules jumps (change table) where
  rest := by rw [apart.rest, adds.rest]
  rules_eq := (apart.rules table).trans adds.rules_eq
  jumps_eq := (apart.jumps table).trans adds.jumps_eq

end Foreign

section Redirect

/-- Only jumps that lead to the chain see what is added to it. -/
theorem Adds.redirect {jump : Jump} (adds : Adds base chain rules [jump] table)
    (first : table.prerouting.head? = some jump) (hits : List UInt8 → List UInt8 → Bool) :
    table.redirect hits =
      if hits jump.address jump.port then rules.head?.or (base.redirect hits)
      else base.redirect hits := by
  obtain ⟨_, leads⟩ := adds.jump_chain List.mem_cons_self
  obtain ⟨rest, order⟩ := List.head?_eq_some_iff.mp first
  have others : rest.filter (fun other => other.chain = chain) = [] := by
    have jumps := adds.jumps_eq
    rw [order, List.filter_cons, if_pos (decide_eq_true leads)] at jumps
    exact (List.cons.inj jumps).2
  have apart : ∀ other ∈ rest, other.chain ≠ chain := by
    intro other member same
    exact List.filter_eq_nil_iff.mp others other member (decide_eq_true same)
  have below : base.prerouting = rest := by
    rw [← adds.rest]
    change table.prerouting.filter _ = rest
    rw [order, List.filter_cons_of_neg (by simp [leads])]
    exact List.filter_eq_self.mpr (fun other member => decide_eq_true (apart other member))
  have same : base.redirect hits = rest.findSome? fun other =>
      if hits other.address other.port then (table.chains other.chain).bind List.head?
      else none := by
    rw [NatTable.redirect, below]
    clear order below others
    induction rest with
    | nil => rfl
    | cons other rest ih =>
        rw [List.findSome?_cons, List.findSome?_cons, ← adds.rest,
          without_chains_of_ne table (apart other List.mem_cons_self), adds.rest,
          ih (fun later member => apart later (List.mem_cons_of_mem _ member))]
  rw [same, NatTable.redirect, order, List.findSome?_cons, leads, adds.rules_eq]
  by_cases matched : hits jump.address jump.port = true
  · simp only [matched, ↓reduceIte, Option.bind_some]
    cases rules.head? <;> rfl
  · simp only [matched, Bool.false_eq_true, ↓reduceIte]

end Redirect

end NatTable

namespace NftTables

variable {tables : NftTables} {family other : Family} {name key : List UInt8}

@[simp] theorem set_self (tables : NftTables) (family : Family) (name : List UInt8)
    (content : Option NftTable) : tables.set family name content family name = content := by
  simp [set]

/-- A table that was added and deleted again left no trace. -/
theorem set_none_of_absent (absent : tables family name = none) (content : Option NftTable) :
    (tables.set family name content).set family name none = tables := by
  have same : Function.update (tables family) name none = tables family := by
    rw [← absent, Function.update_eq_self]
  simp [set, same]

theorem set_of_ne (tables : NftTables) (content : Option NftTable)
    (apart : ¬ (other = family ∧ key = name)) :
    tables.set family name content other key = tables other key := by
  by_cases same : other = family
  · subst same
    simp [set, show key ≠ name from fun equal => apart ⟨rfl, equal⟩]
  · simp [set, same]

theorem set_comm (tables : NftTables) (first second : Option NftTable)
    (apart : ¬ (other = family ∧ key = name)) :
    (tables.set family name first).set other key second =
      (tables.set other key second).set family name first := by
  by_cases same : other = family
  · subst same
    have keys : name ≠ key := fun equal => apart ⟨rfl, equal.symm⟩
    simp only [set, Function.update_self, Function.update_idem]
    rw [Function.update_comm keys]
  · have families : family ≠ other := fun equal => same equal.symm
    simp only [set, Function.update_of_ne same, Function.update_of_ne families]
    exact Function.update_comm families _ _ _

/-- The documented batches about other tables keep off a table. -/
theorem keepsOff_effect {batch : NftBatch}
    (apart : ¬ (batch.family = family ∧ batch.name = name)) :
    KeepsOff family name fun tables => (tables.effect batch).getD tables where
  rest := by
    intro tables content
    cases batch with
    | create other key given =>
        have apart : ¬ (other = family ∧ key = name) := apart
        simp only [effect, set_of_ne tables content apart]
        cases tables other key with
        | some present => rfl
        | none => exact set_comm tables content (some given) apart
    | delete other key =>
        have apart : ¬ (other = family ∧ key = name) := apart
        simp only [effect, set_of_ne tables content apart]
        cases tables other key with
        | some present => exact set_comm tables content none apart
        | none => rfl
  kept := by
    intro tables
    have apart' : ¬ (family = batch.family ∧ name = batch.name) :=
      fun same => apart ⟨same.1.symm, same.2.symm⟩
    cases batch with
    | create other key given =>
        simp only [effect]
        cases tables other key with
        | some present => rfl
        | none => exact set_of_ne tables (some given) apart'
    | delete other key =>
        simp only [effect]
        cases tables other key with
        | some present => exact set_of_ne tables none apart'
        | none => rfl

end NftTables

namespace Rules

variable {rules : Rules} {family other : Family} {name : List UInt8}

@[ext] theorem ext {first second : Rules} (nat : first.nat = second.nat)
    (nft : first.nft = second.nft) : first = second := by
  cases first
  cases second
  simp_all

@[simp] theorem setNat_nat_self (rules : Rules) (family : Family) (table : NatTable) :
    (rules.setNat family table).nat family = table := by
  simp [setNat]

theorem setNat_nat_of_ne (rules : Rules) (apart : other ≠ family) (table : NatTable) :
    (rules.setNat family table).nat other = rules.nat other := by
  simp [setNat, apart]

@[simp] theorem setNat_setNat (rules : Rules) (family : Family) (first second : NatTable) :
    (rules.setNat family first).setNat family second = rules.setNat family second := by
  simp [setNat]

@[simp] theorem setNat_self (rules : Rules) (family : Family) :
    rules.setNat family (rules.nat family) = rules := by
  simp [setNat]

theorem setNat_comm (rules : Rules) (apart : other ≠ family) (first second : NatTable) :
    (rules.setNat family first).setNat other second =
      (rules.setNat other second).setNat family first := by
  apply Rules.ext
  · exact Function.update_comm apart.symm _ _ _
  · rfl

end Rules

end TcpShift.Host
