import TcpShift.FirewallIngress

set_option autoImplicit false

/- What nftables is told: the text of a batch is that of one request only, and it always
fits into its buffer. -/
namespace TcpShift.Host

open CString
open ServiceConfig (Family Inet)

/-- The bytes of an address: hexadecimal digits, dots and colons. -/
def isAddressByte (c : UInt8) : Bool :=
  isDigit c || (0x41 ≤ c && c ≤ 0x46) || (0x61 ≤ c && c ≤ 0x66) || c = 0x2e || c = 0x3a

/-- `inet_pton` takes addresses only. -/
def AddressesOnly (inet : Inet) : Prop :=
  ∀ family text packed, inet.pton family text = some packed → ∀ c ∈ text, isAddressByte c

theorem byte_not_mem {text : List UInt8} {p : UInt8 → Bool} {mark : UInt8}
    (all : ∀ c ∈ text, p c) (other : p mark = false) : mark ∉ text := by
  intro member
  rw [all mark member] at other
  cases other

/-- The name is letters, digits and underscores. -/
theorem validResource_bytes {name : List UInt8} (valid : validResource (some name) = none) :
    ∀ c ∈ name, isAlnum c || c = 0x5f := by
  cases name with
  | nil => cases valid
  | cons first rest =>
      simp only [validResource] at valid
      split at valid
      · cases valid
      · split at valid
        · cases valid
        · rename_i head
          split at valid
          · cases valid
          · rename_i tail
            push Not at head tail
            intro c member
            rcases List.mem_cons.mp member with rfl | member
            · rcases head with letter | underscore
              · simp [isAlnum, letter]
              · simp [underscore]
            · rcases tail c member with letter | underscore
              · simp [letter]
              · simp [underscore]

theorem validIp_bytes {inet : Inet} {text : List UInt8} {ipVersion : Nat}
    (addresses : AddressesOnly inet) (valid : validIp inet (some text) ipVersion = none) :
    ∀ c ∈ text, isAddressByte c := by
  unfold validIp at valid
  split at valid
  · cases valid
  · rename_i family _
    split at valid
    · rename_i accepted
      obtain ⟨packed, parsed⟩ := Option.isSome_iff_exists.mp accepted
      exact addresses family text packed parsed
    · cases valid

theorem append_mark_inj {mark : UInt8} {first second : List UInt8} {after after' : List UInt8}
    (absent : mark ∉ first) (absent' : mark ∉ second)
    (same : first ++ mark :: after = second ++ mark :: after') :
    first = second ∧ after = after' := by
  have cuts := congrArg (cut mark) same
  rw [cut_append after absent, cut_append after' absent'] at cuts
  simpa using cuts

theorem append_lastMark_inj {mark : UInt8} {first second : List UInt8} {after after' : List UInt8}
    (absent : mark ∉ after) (absent' : mark ∉ after')
    (same : first ++ mark :: after = second ++ mark :: after') :
    first = second ∧ after = after' := by
  have cuts := congrArg (cutLast mark) same
  rw [cutLast_append first absent, cutLast_append second absent'] at cuts
  simpa using cuts

theorem printDecimal_injective {first second : Nat}
    (same : printDecimal first = printDecimal second) : first = second := by
  rw [← (printDecimal_spec first).2.2, same, (printDecimal_spec second).2.2]

theorem mark_not_mem_printDecimal {mark : UInt8} (other : isDigit mark = false) (value : Nat) :
    mark ∉ printDecimal value :=
  byte_not_mem (printDecimal_spec value).2.1 other

theorem Family.text_injective {first second : Family}
    (same : Family.text first = Family.text second) : first = second := by
  revert same
  cases first <;> cases second <;> decide

/-- The address ends at the last colon. -/
theorem destination_injective {family : Family} {first second : List UInt8} {port port' : UInt16}
    (same : destination family first port = destination family second port') :
    first = second ∧ port = port' := by
  have digits (value : Nat) : (0x3a : UInt8) ∉ printDecimal value :=
    mark_not_mem_printDecimal (by decide) value
  have colon : ascii ":" = [0x3a] := by decide
  have bracket : ascii "]:" = ascii "]" ++ [0x3a] := by decide
  cases family with
  | v4 =>
      have parts : first ++ 0x3a :: printDecimal port.toNat =
          second ++ 0x3a :: printDecimal port'.toNat := by
        simpa only [destination, colon, List.append_assoc, List.singleton_append] using same
      obtain ⟨address, number⟩ := append_lastMark_inj (digits _) (digits _) parts
      exact ⟨address, UInt16.toNat_inj.mp (printDecimal_injective number)⟩
  | v6 =>
      have parts : (ascii "[" ++ first ++ ascii "]") ++ 0x3a :: printDecimal port.toNat =
          (ascii "[" ++ second ++ ascii "]") ++ 0x3a :: printDecimal port'.toNat := by
        simpa only [destination, bracket, List.append_assoc, List.singleton_append] using same
      obtain ⟨address, number⟩ := append_lastMark_inj (digits _) (digits _) parts
      refine ⟨?_, UInt16.toNat_inj.mp (printDecimal_injective number)⟩
      exact List.append_cancel_left (List.append_cancel_right address)

def ruleGuard : Family → List UInt8
  | .v4 => []
  | .v6 => ascii "meta l4proto tcp "

def chainLine (family : Family) (name : List UInt8) : List UInt8 :=
  ascii "add chain " ++ Family.text family ++ ascii " " ++ name ++
    ascii (" prerouting \x7b type nat hook prerouting priority -100; policy accept; " ++ "\x7d\n")

/-- The rule up to the public address. -/
def ruleFront (family : Family) (name : List UInt8) : List UInt8 :=
  ascii "add rule " ++ Family.text family ++ ascii " " ++ name ++ ascii " prerouting " ++
    Family.text family ++ ascii " daddr "

/-- The batch with the words a space or a line end closes set apart. -/
theorem create_text (family : Family) (name : List UInt8) (content : NftTable) :
    (NftBatch.create family name content).text =
      ascii "create table " ++ (Family.text family ++ 0x20 :: (name ++ 0x0a ::
        (chainLine family name ++ (ruleFront family name ++ (content.address ++ 0x20 ::
          (ruleGuard family ++ (ascii "tcp dport " ++ (printDecimal content.port ++ 0x20 ::
            (ascii "counter dnat to " ++ (content.destination ++ [0x0a])))))))))) := by
  have space : ascii " " = [0x20] := by decide
  have line : ascii "\n" = [0x0a] := by decide
  have counter : ascii " counter dnat to " = [0x20] ++ ascii "counter dnat to " := by decide
  cases family <;>
    simp only [NftBatch.text, chainLine, ruleFront, ruleGuard, space, line, counter,
      List.append_assoc, List.cons_append, List.nil_append]

/-- A batch that creates a table says to whom, under which name, from where and to where. -/
theorem create_text_injective {family family' : Family} {name name' : List UInt8}
    {content content' : NftTable} (names : 0x0a ∉ name ∧ 0x0a ∉ name')
    (addresses : 0x20 ∉ content.address ∧ 0x20 ∉ content'.address)
    (same : (NftBatch.create family name content).text =
      (NftBatch.create family' name' content').text) :
    family = family' ∧ name = name' ∧ content = content' := by
  have word (family : Family) : (0x20 : UInt8) ∉ Family.text family := by
    cases family <;> decide
  have digits (value : Nat) : (0x20 : UInt8) ∉ printDecimal value :=
    mark_not_mem_printDecimal (by decide) value
  rw [create_text, create_text] at same
  obtain ⟨families, same⟩ := append_mark_inj (word _) (word _) (List.append_cancel_left same)
  obtain rfl := Family.text_injective families
  obtain ⟨rfl, same⟩ := append_mark_inj names.1 names.2 same
  have rule := List.append_cancel_left (List.append_cancel_left same)
  obtain ⟨address, same⟩ := append_mark_inj addresses.1 addresses.2 rule
  have tail := List.append_cancel_left (List.append_cancel_left same)
  obtain ⟨port, same⟩ := append_mark_inj (digits _) (digits _) tail
  have last := List.append_cancel_right (List.append_cancel_left same)
  refine ⟨rfl, rfl, ?_⟩
  cases content
  cases content'
  cases address
  cases printDecimal_injective port
  cases last
  rfl

/-- Two requests that were accepted and lead to the same text ask for the same: no name and
no address can put words of its own into the batch. -/
theorem nft_text_determines_request {inet : Inet} (addresses : AddressesOnly inet)
    {first second : FirewallSpec} {prepared prepared' : Firewall} {family family' : Family}
    (ready : Firewall.Prepared inet first prepared)
    (ready' : Firewall.Prepared inet second prepared')
    (same : (NftBatch.create family prepared.resourceName (prepared.nftContent family)).text =
      (NftBatch.create family' prepared'.resourceName (prepared'.nftContent family')).text) :
    family = family' ∧ first.resourceName = second.resourceName ∧
      first.publicAddress = second.publicAddress ∧ first.publicPort = second.publicPort ∧
      first.targetAddress = second.targetAddress ∧ first.targetPort = second.targetPort := by
  have line {spec : FirewallSpec} {record : Firewall} (ready : Firewall.Prepared inet spec record) :
      0x0a ∉ record.resourceName :=
    byte_not_mem (validResource_bytes (ready.resourceName ▸ ready.validName)) (by decide)
  have space {spec : FirewallSpec} {record : Firewall} (ready : Firewall.Prepared inet spec record) :
      0x20 ∉ record.publicAddress :=
    byte_not_mem (validIp_bytes addresses (ready.publicAddress ▸ ready.validPublic)) (by decide)
  obtain ⟨rfl, names, contents⟩ :=
    create_text_injective ⟨line ready, line ready'⟩ ⟨space ready, space ready'⟩ same
  have address := congrArg NftTable.address contents
  have port := congrArg NftTable.port contents
  obtain ⟨target, targetPort⟩ := destination_injective (congrArg NftTable.destination contents)
  refine ⟨rfl, ?_, ?_, ?_, ?_, ?_⟩
  · rw [ready.resourceName, ready'.resourceName, names]
  · rw [ready.publicAddress, ready'.publicAddress]
    exact congrArg some address
  · rw [← ready.publicPort, ← ready'.publicPort]
    exact UInt16.toNat_inj.mp port
  · rw [ready.targetAddress, ready'.targetAddress, target]
  · rw [← ready.targetPort, ← ready'.targetPort, targetPort]

def strictInet : Inet where
  pton := fun _ text => if text.all isAddressByte then some text else none
  ntop := fun _ packed => packed

theorem strictInet_addressesOnly : AddressesOnly strictInet := by
  intro family text packed parsed
  simp only [strictInet] at parsed
  split at parsed
  · rename_i all
    exact List.all_eq_true.mp all
  · cases parsed

theorem nft_text_determines_request_sample :
    ∃ prepared prepared', Firewall.Prepared strictInet sampleSpec prepared ∧
      Firewall.Prepared strictInet { sampleSpec with ipVersion := 4 } prepared' ∧
      (Family.v4 = Family.v4 ∧ sampleSpec.resourceName = some (ascii "tcp_shift_p2") ∧
        sampleSpec.publicAddress = some (ascii "203.0.113.7") ∧ sampleSpec.publicPort = 443 ∧
        sampleSpec.targetAddress = some (ascii "10.0.0.2") ∧ sampleSpec.targetPort = 443) := by
  have ready : (Firewall.prepare strictInet .zero (some sampleSpec)).isOk := by decide +kernel
  cases outcome : Firewall.prepare strictInet .zero (some sampleSpec) with
  | error errno =>
      rw [outcome] at ready
      cases ready
  | ok prepared =>
      obtain ⟨_, given, same, checked⟩ := Firewall.prepare_ok outcome
      cases same
      exact ⟨prepared, prepared, checked, checked,
        nft_text_determines_request strictInet_addressesOnly checked checked rfl⟩

theorem printDigits_length_le {fuel value count : Nat} (small : value < 10 ^ (count + 1)) :
    (printDigits fuel value).length ≤ count + 1 := by
  induction fuel generalizing value count with
  | zero => exact Nat.zero_le _
  | succ fuel ih =>
      rw [printDigits]
      by_cases single : value < 10
      · rw [if_pos single, List.length_singleton]
        omega
      · rw [if_neg single, List.length_append, List.length_singleton]
        cases count with
        | zero => omega
        | succ count =>
            have front := ih (show value / 10 < 10 ^ (count + 1) by omega)
            omega

theorem port_length_le (port : UInt16) : (printDecimal port.toNat).length ≤ 5 := by
  have bound := port.toNat_lt
  exact printDigits_length_le (by omega)

/-- No destination and no batch is cut off: `snprintf` has room for all of them. -/
theorem create_text_fits (firewall : Firewall) (family : Family) :
    (firewall.nftContent family).destination.length < destinationMax ∧
      (NftBatch.create family firewall.resourceName
        (firewall.nftContent family)).text.length < nftBatchMax := by
  have name := firewall.resourceName_fits
  have address := firewall.publicAddress_fits
  have target := firewall.targetAddress_fits
  have port := port_length_le firewall.publicPort
  have targetPort := port_length_le firewall.targetPort
  have short : (firewall.nftContent family).destination.length < destinationMax := by
    cases family <;>
      simp only [Firewall.nftContent, destination, List.length_append, destinationMax,
        addressMax, show (ascii ":").length = 1 from by decide,
        show (ascii "[").length = 1 from by decide,
        show (ascii "]:").length = 2 from by decide] at * <;>
      omega
  have words : (Family.text family).length ≤ 3 := by cases family <;> decide
  have guard : (ruleGuard family).length ≤ 17 := by cases family <;> decide
  refine ⟨short, ?_⟩
  have content : (firewall.nftContent family).address = firewall.publicAddress := rfl
  have number : (firewall.nftContent family).port = firewall.publicPort.toNat := rfl
  have table : (ascii "create table ").length = 13 := by decide
  have space : (ascii " ").length = 1 := by decide
  have chain : (chainLine family firewall.resourceName).length ≤ 10 + 3 + 1 + 63 + 90 := by
    have first : (ascii "add chain ").length = 10 := by decide
    have hook : (ascii (" prerouting \x7b type nat hook prerouting priority -100; policy accept; " ++
      "\x7d\n")).length ≤ 90 := by decide
    simp only [chainLine, List.length_append, first, space, resourceMax] at *
    omega
  have front : (ruleFront family firewall.resourceName).length ≤ 9 + 3 + 1 + 63 + 12 + 3 + 7 := by
    have first : (ascii "add rule ").length = 9 := by decide
    have prerouting : (ascii " prerouting ").length = 12 := by decide
    have selector : (ascii " daddr ").length = 7 := by decide
    simp only [ruleFront, List.length_append, first, space, prerouting, selector,
      resourceMax] at *
    omega
  have port : (ascii "tcp dport ").length = 10 := by decide
  have counter : (ascii "counter dnat to ").length = 16 := by decide
  rw [create_text]
  simp only [List.length_append, List.length_cons, List.length_nil, content, number, table, port,
    counter, destinationMax, nftBatchMax, resourceMax, addressMax] at *
  omega

end TcpShift.Host
