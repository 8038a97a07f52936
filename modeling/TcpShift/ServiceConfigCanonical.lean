import TcpShift.ServiceConfigOrder

set_option autoImplicit false

/- The last pass brings addresses into a form it leaves as it is. -/
namespace TcpShift.ServiceConfig

open Word CString

def colon : UInt8 := 0x3a
def closing : UInt8 := 0x5d
def dot : UInt8 := 0x2e

/-- The bytes of an address as `inet_ntop` writes it. -/
def Family.writes (c : UInt8) : Family → Bool
  | .v4 => isDigit c || c = dot
  | .v6 => isDigit c || (0x61 ≤ c && c ≤ 0x66) || c = colon || c = dot

/-- What `inet_pton` reads, `inet_ntop` writes in a canonical text that is read as the same
address. -/
structure Inet.Canonical (inet : Inet) : Prop where
  inverse : ∀ family text packed, inet.pton family text = some packed →
    inet.pton family (inet.ntop family packed) = some packed
  nonempty : ∀ family text packed, inet.pton family text = some packed →
    inet.ntop family packed ≠ []
  bytes : ∀ family text packed, inet.pton family text = some packed →
    ∀ c ∈ inet.ntop family packed, family.writes c

/-- A canonical text of the address that fits its field. -/
structure Inet.Address (inet : Inet) (family : Family) (packed text : List UInt8) : Prop where
  read : inet.pton family text = some packed
  written : inet.ntop family packed = text
  room : text.length < addressMax
  nonempty : text ≠ []
  bytes : ∀ c ∈ text, family.writes c

variable {inet : Inet} {family : Family} {packed text : List UInt8}

theorem Inet.Canonical.address (canonical : inet.Canonical) {written : List UInt8}
    (read : inet.pton family text = some packed)
    (fits : inet.ntopInto family packed addressMax = some written) :
    inet.Address family packed written := by
  unfold Inet.ntopInto at fits
  simp only at fits
  split at fits
  · rename_i room
    cases fits
    exact ⟨canonical.inverse family text packed read, rfl, room,
      canonical.nonempty family text packed read, canonical.bytes family text packed read⟩
  · cases fits

theorem Inet.Address.ntopInto (address : inet.Address family packed text) :
    inet.ntopInto family packed addressMax = some text := by
  unfold Inet.ntopInto
  rw [address.written]
  exact if_pos address.room

/-- A byte no address of the family is written with. -/
theorem Inet.Address.absent (address : inet.Address family packed text) {c : UInt8}
    (foreign : family.writes c = false) : c ∉ text := by
  intro member
  have writes := address.bytes c member
  rw [foreign] at writes
  cases writes

theorem storable_of_isDigit {c : UInt8} (digit : isDigit c) : Storable c := by
  unfold isDigit at digit
  simp only [Bool.and_eq_true, decide_eq_true_eq] at digit
  exact .inr (.inr (.inr (UInt8.le_trans (by decide) digit.1)))

theorem Family.storable_of_writes {c : UInt8} (writes : family.writes c) : Storable c := by
  cases family with
  | v4 =>
      simp only [Family.writes, Bool.or_eq_true, decide_eq_true_eq] at writes
      rcases writes with digit | rfl
      · exact storable_of_isDigit digit
      · decide
  | v6 =>
      simp only [Family.writes, Bool.or_eq_true, Bool.and_eq_true, decide_eq_true_eq] at writes
      rcases writes with ((digit | letter) | rfl) | rfl
      · exact storable_of_isDigit digit
      · exact .inr (.inr (.inr (UInt8.le_trans (by decide) letter.1)))
      · decide
      · decide

theorem canonicalIp_address (canonical : inet.Canonical) {written : List UInt8}
    (answer : canonicalIp inet text family = some written) :
    ∃ packed, inet.Address family packed written := by
  obtain ⟨packed, read, fits⟩ := Option.bind_eq_some_iff.mp answer
  exact ⟨packed, canonical.address read fits⟩

theorem Inet.Address.canonicalIp (address : inet.Address family packed text) :
    canonicalIp inet text family = some text := by
  unfold ServiceConfig.canonicalIp
  rw [address.read]
  exact address.ntopInto

section Numbers

theorem parseUnsigned_le {value : List UInt8} {maximum number : Nat}
    (parsed : parseUnsigned value maximum = some number) : number ≤ maximum := by
  unfold parseUnsigned at parsed
  split at parsed
  · cases parsed
  · split at parsed
    · split at parsed
      · split at parsed
        · cases parsed
        · cases parsed
          omega
      · cases parsed
    · cases parsed

theorem parseUnsigned_printDecimal {number maximum : Nat} (small : number ≤ maximum)
    (word : maximum ≤ u64Max) : parseUnsigned (printDecimal number) maximum = some number := by
  obtain ⟨nonempty, digits, value⟩ := printDecimal_spec number
  have numeral : Numeral (printDecimal number) .none (printDecimal number) [] :=
    ⟨by simp [Sign.bytes], nonempty, digits, stops_nil⟩
  have converted := strtoull_numeral numeral
  rw [value, if_neg (by omega)] at converted
  obtain ⟨c, rest, same⟩ := List.exists_cons_of_ne_nil nonempty
  have digit : isDigit c := digits c (same ▸ List.mem_cons_self)
  unfold parseUnsigned
  rw [same] at converted ⊢
  simp only [converted, Sign.apply]
  rw [if_pos digit, if_neg (by omega)]

theorem length_printDigits {fuel value width : Nat} (small : value < 10 ^ width)
    (some : 0 < width) : (printDigits fuel value).length ≤ width := by
  induction fuel generalizing value width with
  | zero => exact Nat.zero_le _
  | succ fuel ih =>
      rw [printDigits]
      split
      · exact some
      · rename_i more
        obtain ⟨width, rfl⟩ := Nat.exists_eq_succ_of_ne_zero (Nat.ne_of_gt some)
        have wide : 0 < width := by
          apply Nat.pos_of_ne_zero
          rintro rfl
          omega
        have quotient : value / 10 < 10 ^ width := by
          rw [Nat.div_lt_iff_lt_mul (by decide)]
          rw [Nat.succ_eq_add_one, Nat.pow_succ] at small
          exact small
        have shorter := ih quotient wide
        rw [List.length_append, List.length_singleton]
        omega

theorem length_printPort {port : Nat} (small : port ≤ 65535) : (printDecimal port).length ≤ 5 := by
  apply length_printDigits _ (by decide)
  omega

/-- A byte that is no digit does not occur in a number. -/
theorem notMem_printDecimal {c : UInt8} (number : Nat) (other : isDigit c = false) :
    c ∉ printDecimal number := by
  intro member
  have digit := (printDecimal_spec number).2.1 c member
  rw [other] at digit
  cases digit

end Numbers

section Cidr

/-- The mask text of a prefix: there is one for IPv4. -/
def maskText (inet : Inet) (bits : Nat) : Family → Option (List UInt8)
  | .v4 => inet.ntopInto .v4 (netmask bits) addressMax
  | .v6 => some []

theorem parseCidr_eq_some {address cidr mask : List UInt8}
    (parsed : parseCidr inet text family = some (address, cidr, mask)) :
    ∃ raw packed bits, bits ≤ 8 * family.bytes ∧ inet.pton family raw = some packed ∧
      inet.ntopInto family packed addressMax = some address ∧
      cidr = address ++ slash :: printDecimal bits ∧ cidr.length < addressMax ∧
      maskText inet bits family = some mask := by
  unfold parseCidr at parsed
  split at parsed
  · cases parsed
  · split at parsed
    · cases parsed
    · rename_i raw bitsText _
      split at parsed
      · cases parsed
      · cases number : parseUnsigned bitsText (8 * family.bytes) with
        | none => simp [number] at parsed
        | some bits =>
            cases read : inet.pton family raw with
            | none => simp [number, read] at parsed
            | some packed =>
                cases fits : inet.ntopInto family packed addressMax with
                | none => simp [number, read, fits] at parsed
                | some written =>
                    simp only [number, read, fits] at parsed
                    split at parsed
                    · cases parsed
                    · rename_i room
                      refine ⟨raw, packed, bits, parseUnsigned_le number, read, ?_⟩
                      cases family with
                      | v4 =>
                          obtain ⟨_, masked, same⟩ := Option.map_eq_some_iff.mp parsed
                          cases same
                          exact ⟨fits, rfl, Nat.lt_of_not_le room, masked⟩
                      | v6 =>
                          cases parsed
                          exact ⟨fits, rfl, Nat.lt_of_not_le room, rfl⟩

theorem Inet.Address.parseCidr (address : inet.Address family packed text) {bits : Nat}
    {mask : List UInt8} (small : bits ≤ 8 * family.bytes)
    (room : (text ++ slash :: printDecimal bits).length < addressMax)
    (masked : maskText inet bits family = some mask) :
    parseCidr inet (text ++ slash :: printDecimal bits) family =
      some (text, text ++ slash :: printDecimal bits, mask) := by
  have word : 8 * family.bytes ≤ u64Max := by cases family <;> decide
  have split := cutLast_append text (notMem_printDecimal bits (by decide : isDigit slash = false))
  unfold ServiceConfig.parseCidr
  rw [if_neg (Nat.not_le_of_lt room), split]
  simp only [parseUnsigned_printDecimal small word, address.read, address.ntopInto]
  rw [if_neg (not_or.mpr ⟨address.nonempty, (printDecimal_spec bits).1⟩),
    if_neg (Nat.not_le_of_lt room)]
  cases family with
  | v4 =>
      change (inet.ntopInto .v4 (netmask bits) addressMax).map _ = _
      have written : inet.ntopInto .v4 (netmask bits) addressMax = some mask := masked
      rw [written]
      rfl
  | v6 =>
      cases masked
      rfl

/-- The CIDR text the load stores reads as itself. -/
theorem parseCidr_idempotent (canonical : inet.Canonical) {address cidr mask : List UInt8}
    (parsed : parseCidr inet text family = some (address, cidr, mask)) :
    (∃ packed bits, inet.Address family packed address ∧
        cidr = address ++ slash :: printDecimal bits ∧ cidr.length < addressMax) ∧
      parseCidr inet cidr family = some (address, cidr, mask) := by
  obtain ⟨raw, packed, bits, small, read, fits, rfl, room, masked⟩ := parseCidr_eq_some parsed
  have written := canonical.address read fits
  exact ⟨⟨packed, bits, written, rfl, room⟩, written.parseCidr small room masked⟩

end Cidr

section Endpoints

/-- An endpoint in the syntax of its family. -/
def renderEndpoint (family : Family) (address : List UInt8) (port : Nat) : List UInt8 :=
  match family with
  | .v4 => address ++ colon :: printDecimal port
  | .v6 => bracket :: (address ++ closing :: colon :: printDecimal port)

theorem endpoint_eq_some {raw portText address : List UInt8} {answered : Family} {port : Nat}
    (answer : endpoint inet family raw portText = some (answered, address, port)) :
    answered = family ∧ port ≠ 0 ∧ port ≤ 65535 ∧ ∃ packed, inet.pton family raw = some packed ∧
      packed ≠ List.replicate family.bytes 0 ∧
      inet.ntopInto family packed addressMax = some address := by
  unfold endpoint at answer
  split at answer
  · cases answer
  · cases number : parseUnsigned portText 65535 with
    | none => simp [number] at answer
    | some parsed =>
        simp only [number] at answer
        split at answer
        · cases answer
        · rename_i nonzero
          cases read : inet.pton family raw with
          | none => simp [read] at answer
          | some packed =>
              simp only [read] at answer
              split at answer
              · cases answer
              · rename_i specified
                obtain ⟨written, fits, same⟩ := Option.map_eq_some_iff.mp answer
                cases same
                exact ⟨rfl, nonzero, parseUnsigned_le number, packed, rfl, specified, fits⟩

theorem Inet.Address.endpoint (address : inet.Address family packed text) {port : Nat}
    (specified : packed ≠ List.replicate family.bytes 0) (nonzero : port ≠ 0)
    (small : port ≤ 65535) :
    endpoint inet family text (printDecimal port) = some (family, text, port) := by
  have size : ¬ (text.length = 0 ∨ text.length ≥ addressMax) := by
    rw [not_or, List.length_eq_zero_iff]
    exact ⟨address.nonempty, Nat.not_le_of_lt address.room⟩
  unfold ServiceConfig.endpoint
  rw [if_neg size, parseUnsigned_printDecimal small (by decide)]
  simp only [address.read, address.ntopInto]
  rw [if_neg nonzero, if_neg specified]
  rfl

theorem parseEndpoint_eq_some {address : List UInt8} {port : Nat}
    (parsed : parseEndpoint inet text = some (family, address, port)) :
    ∃ raw portText, endpoint inet family raw portText = some (family, address, port) := by
  unfold parseEndpoint at parsed
  split at parsed
  · split at parsed
    · have same := (endpoint_eq_some parsed).1
      subst same
      exact ⟨_, _, parsed⟩
    · cases parsed
  · split at parsed
    · cases parsed
    · split at parsed
      · cases parsed
      · have same := (endpoint_eq_some parsed).1
        subst same
        exact ⟨_, _, parsed⟩

theorem Inet.Address.parseEndpoint (address : inet.Address family packed text) {port : Nat}
    (specified : packed ≠ List.replicate family.bytes 0) (nonzero : port ≠ 0)
    (small : port ≤ 65535) :
    parseEndpoint inet (renderEndpoint family text port) = some (family, text, port) := by
  have answer := address.endpoint specified nonzero small
  cases family with
  | v4 =>
      have head : (text ++ colon :: printDecimal port).head? ≠ some bracket := by
        obtain ⟨c, rest, same⟩ := List.exists_cons_of_ne_nil address.nonempty
        have absent := address.absent (by decide : Family.v4.writes bracket = false)
        rw [same] at absent ⊢
        intro first
        cases first
        exact absent List.mem_cons_self
      have split : cutLast 0x3a (text ++ colon :: printDecimal port) =
          some (text, printDecimal port) :=
        cutLast_append text (notMem_printDecimal port (by decide))
      have oneColon : 0x3a ∉ text := address.absent (by decide)
      unfold ServiceConfig.parseEndpoint renderEndpoint
      simp only
      rw [if_neg head, split]
      simp only
      rw [if_neg oneColon]
      exact answer
  | v6 =>
      obtain ⟨c, rest, same⟩ := List.exists_cons_of_ne_nil (printDecimal_spec port).1
      have absent : closing ∉ bracket :: text := by
        rw [List.mem_cons, not_or]
        exact ⟨by decide, address.absent (by decide)⟩
      have split : cut 0x5d (bracket :: (text ++ closing :: colon :: printDecimal port)) =
          some (bracket :: text, colon :: printDecimal port) := cut_append _ absent
      have head : (bracket :: (text ++ closing :: colon :: printDecimal port)).head? =
          some bracket := rfl
      unfold ServiceConfig.parseEndpoint renderEndpoint
      simp only
      rw [if_pos head, split, same]
      rw [same] at answer
      exact answer

/-- An endpoint the load accepts is written in a text that gives the same endpoint. -/
theorem parseEndpoint_render (canonical : inet.Canonical) {address : List UInt8} {port : Nat}
    (parsed : parseEndpoint inet text = some (family, address, port)) :
    (∃ packed, inet.Address family packed address) ∧ port ≤ 65535 ∧
      parseEndpoint inet (renderEndpoint family address port) = some (family, address, port) := by
  obtain ⟨raw, portText, answer⟩ := parseEndpoint_eq_some parsed
  obtain ⟨_, nonzero, small, packed, read, specified, fits⟩ := endpoint_eq_some answer
  have written := canonical.address read fits
  exact ⟨⟨packed, written⟩, small, written.parseEndpoint specified nonzero small⟩

end Endpoints

section LastPass

/-- The family of a loaded configuration. -/
def Config.listenFamily (config : Config) : Family := if config.ipVersion = 4 then .v4 else .v6

theorem Config.listenFamily_version {config : Config} (version : config.ipVersion = family.version) :
    config.listenFamily = family := by
  unfold Config.listenFamily
  rw [version]
  cases family <;> rfl

/-- The loader behind the lines that a loaded configuration is written in. -/
def reloaded (config : Config) : Loader where
  config :=
    { version := config.version
      cc := config.cc
      firewallBackend := config.firewallBackend
      tunName := config.tunName
      tunHostCidr := config.tunHostCidr
      tunGuestAddress := config.tunGuestAddress }
  state :=
    { haveVersion := true
      haveCc := true
      haveFirewallBackend := true
      haveTunName := true
      haveTunHost := true
      haveTunGuest := true
      haveForward := true
      haveListen := true
      haveBackend := true
      inForward := true
      listen := renderEndpoint config.listenFamily config.publicAddress config.publicPort
      backend := renderEndpoint .v4 loopback config.backendPort }

/-- A string of a configuration that a line can hold. -/
def Fits (size : Nat) (s : List UInt8) : Prop := s.length < size ∧ ∀ c ∈ s, Storable c

structure Config.Writable (config : Config) : Prop where
  version : config.version = supportedVersion
  cc : Fits ccMax config.cc
  firewallBackend : Fits firewallBackendMax config.firewallBackend
  known : validFirewallBackend config.firewallBackend
  tunName : Fits tunNameMax config.tunName
  tunHost : Fits addressMax config.tunHostCidr
  tunGuest : Fits addressMax config.tunGuestAddress
  listen : Fits parsedBytes (reloaded config).state.listen
  backend : Fits parsedBytes (reloaded config).state.backend

theorem fits_validCc {name : List UInt8} (valid : validCc name) : Fits ccMax name := by
  simp only [validCc, Bool.and_eq_true, decide_eq_true_eq, List.all_eq_true,
    Bool.or_eq_true] at valid
  refine ⟨valid.1.2, ?_⟩
  intro c member
  rcases valid.2 c member with ((letter | digit) | rfl) | rfl
  · exact .inr (.inr (.inr (UInt8.le_trans (by decide) letter.1)))
  · exact storable_of_isDigit digit
  · decide
  · decide

theorem fits_validTunName {name : List UInt8} (valid : validTunName name) :
    Fits tunNameMax name := by
  simp only [validTunName, Bool.and_eq_true, decide_eq_true_eq, List.all_eq_true,
    Bool.or_eq_true] at valid
  refine ⟨valid.1, ?_⟩
  intro c member
  rcases valid.2 c member with ((((capital | letter) | digit) | rfl) | rfl) | rfl
  · exact .inr (.inr (.inr (UInt8.le_trans (by decide) capital.1)))
  · exact .inr (.inr (.inr (UInt8.le_trans (by decide) letter.1)))
  · exact storable_of_isDigit digit
  · decide
  · decide
  · decide

theorem fits_validFirewallBackend {name : List UInt8} (valid : validFirewallBackend name) :
    Fits firewallBackendMax name := by
  simp only [validFirewallBackend, Bool.or_eq_true, decide_eq_true_eq] at valid
  rcases valid with ((rfl | rfl) | rfl) | rfl
  all_goals
    unfold Fits
    decide +kernel

theorem Inet.Address.storable (address : inet.Address family packed text) :
    ∀ c ∈ text, Storable c :=
  fun c member => family.storable_of_writes (address.bytes c member)

theorem storable_printDecimal (number : Nat) : ∀ c ∈ printDecimal number, Storable c :=
  fun c member => storable_of_isDigit ((printDecimal_spec number).2.1 c member)

theorem Inet.Address.fits_endpoint (address : inet.Address family packed text) {port : Nat}
    (small : port ≤ 65535) : Fits parsedBytes (renderEndpoint family text port) := by
  have room := address.room
  have digits := length_printPort small
  have fromText := address.storable
  have fromPort := storable_printDecimal port
  have fromColon : Storable colon := by decide
  cases family with
  | v4 =>
      constructor
      · change (text ++ colon :: printDecimal port).length < parsedBytes
        rw [List.length_append, List.length_cons]
        unfold addressMax at room
        unfold parsedBytes
        omega
      · exact List.forall_mem_append.mpr
          ⟨fromText, List.forall_mem_cons.mpr ⟨fromColon, fromPort⟩⟩
  | v6 =>
      constructor
      · change (bracket :: (text ++ closing :: colon :: printDecimal port)).length < parsedBytes
        simp only [List.length_append, List.length_cons]
        unfold addressMax at room
        unfold parsedBytes
        omega
      · refine List.forall_mem_cons.mpr ⟨by decide, List.forall_mem_append.mpr ⟨fromText, ?_⟩⟩
        exact List.forall_mem_cons.mpr
          ⟨by decide, List.forall_mem_cons.mpr ⟨fromColon, fromPort⟩⟩

theorem finalizeTun_eq_ok {state : ParseState} {base config : Config}
    (finalized : finalizeTun inet state base family = .ok config) :
    ∃ hostText guestText host cidr mask guest,
      parseCidr inet hostText family = some (host, cidr, mask) ∧
      canonicalIp inet guestText family = some guest ∧ sameIp inet host guest family = false ∧
      config = { base with
        tunHostAddress := host, tunHostCidr := cidr, tunNetmask := mask,
        tunGuestAddress := guest } := by
  unfold finalizeTun at finalized
  simp only at finalized
  split at finalized
  · cases finalized
  · rename_i host cidr mask parsed
    split at finalized
    · cases finalized
    · rename_i guest answer
      split at finalized
      · cases finalized
      · rename_i apart
        cases finalized
        exact ⟨_, _, host, cidr, mask, guest, parsed, answer, Bool.eq_false_of_not_eq_true apart,
          rfl⟩

/-- The last pass leaves what it has finished as it is. -/
theorem finalizeTun_idempotent (canonical : inet.Canonical) {state later : ParseState}
    {base config : Config} (haveHost : later.haveTunHost = true)
    (haveGuest : later.haveTunGuest = true)
    (finalized : finalizeTun inet state base family = .ok config) :
    Fits addressMax config.tunHostCidr ∧ Fits addressMax config.tunGuestAddress ∧
      ∀ start : Config, start.tunHostCidr = config.tunHostCidr →
        start.tunGuestAddress = config.tunGuestAddress →
        finalizeTun inet later start family = .ok { start with
          tunHostAddress := config.tunHostAddress, tunHostCidr := config.tunHostCidr,
          tunNetmask := config.tunNetmask, tunGuestAddress := config.tunGuestAddress } := by
  obtain ⟨hostText, guestText, host, cidr, mask, guest, parsed, answer, apart, rfl⟩ :=
    finalizeTun_eq_ok finalized
  obtain ⟨⟨packed, bits, address, sameCidr, room⟩, again⟩ := parseCidr_idempotent canonical parsed
  obtain ⟨guestPacked, guestAddress⟩ := canonicalIp_address canonical answer
  refine ⟨⟨room, ?_⟩, ⟨guestAddress.room, guestAddress.storable⟩, ?_⟩
  · rw [sameCidr]
    exact List.forall_mem_append.mpr
      ⟨address.storable, List.forall_mem_cons.mpr ⟨by decide, storable_printDecimal bits⟩⟩
  · intro start sameHost sameGuest
    have guestAgain := guestAddress.canonicalIp
    unfold finalizeTun
    simp only at sameHost sameGuest ⊢
    rw [haveHost, haveGuest, if_pos rfl, if_pos rfl, sameHost, sameGuest, again]
    simp only [guestAgain]
    rw [apart]
    rfl

theorem ok_of_guard {α : Type} {refused : Prop} [Decidable refused] {failure : Failure}
    {rest : Except Failure α} {answer : α}
    (guarded : (if refused then .error failure else rest) = .ok answer) :
    ¬ refused ∧ rest = .ok answer := by
  split at guarded
  · cases guarded
  · exact ⟨‹_›, guarded⟩

/-- What the last pass checks. -/
theorem finalizeConfig_eq_ok {loader : Loader} {config : Config}
    (finalized : finalizeConfig inet loader = .ok config) :
    loader.config.version = supportedVersion ∧ validCc loader.config.cc ∧
      validTunName loader.config.tunName ∧
      ∃ firewallBackend family address port backendPort,
        validFirewallBackend firewallBackend ∧
        parseEndpoint inet loader.state.listen = some (family, address, port) ∧
        parseEndpoint inet loader.state.backend = some (.v4, loopback, backendPort) ∧
        finalizeTun inet loader.state
          { loader.config with
            firewallBackend := firewallBackend
            publicAddress := address
            publicPort := port
            backendPort := backendPort
            ipVersion := family.version } family = .ok config := by
  unfold finalizeConfig at finalized
  simp only at finalized
  generalize (if loader.state.haveFirewallBackend then loader.config.firewallBackend
    else ascii "auto") = firewallBackend at finalized
  obtain ⟨_, finalized⟩ := ok_of_guard finalized
  obtain ⟨version, finalized⟩ := ok_of_guard finalized
  obtain ⟨_, finalized⟩ := ok_of_guard finalized
  obtain ⟨known, finalized⟩ := ok_of_guard finalized
  obtain ⟨_, finalized⟩ := ok_of_guard finalized
  obtain ⟨cc, finalized⟩ := ok_of_guard finalized
  obtain ⟨tunName, finalized⟩ := ok_of_guard finalized
  refine ⟨not_not.mp version, Bool.eq_true_of_not_eq_false cc,
    Bool.eq_true_of_not_eq_false tunName, ?_⟩
  split at finalized
  · cases finalized
  · rename_i family address port listen
    split at finalized
    · cases finalized
    · rename_i backendFamily backendAddress backendPort backend
      obtain ⟨onHost, finalized⟩ := ok_of_guard finalized
      rw [not_or, not_not, not_not] at onHost
      obtain ⟨rfl, rfl⟩ := onHost
      exact ⟨firewallBackend, family, address, port, backendPort,
        Bool.eq_true_of_not_eq_false known, listen, backend, finalized⟩

/-- A loaded configuration can be written, and the last pass finishes what was written with the
same configuration. -/
theorem finalizeConfig_reloaded (canonical : inet.Canonical) {loader : Loader} {config : Config}
    (finalized : finalizeConfig inet loader = .ok config) :
    config.Writable ∧ finalizeConfig inet (reloaded config) = .ok config := by
  obtain ⟨version, cc, tunName, firewallBackend, family, address, port, backendPort, known,
    listen, backend, finished⟩ := finalizeConfig_eq_ok finalized
  obtain ⟨⟨packed, written⟩, small, listenAgain⟩ := parseEndpoint_render canonical listen
  obtain ⟨⟨packedBackend, writtenBackend⟩, smallBackend, backendAgain⟩ :=
    parseEndpoint_render canonical backend
  have haveHost : (reloaded config).state.haveTunHost = true := rfl
  have haveGuest : (reloaded config).state.haveTunGuest = true := rfl
  obtain ⟨fitsHost, fitsGuest, finishes⟩ :=
    finalizeTun_idempotent canonical haveHost haveGuest finished
  obtain ⟨_, _, host, cidr, mask, guest, _, _, _, same⟩ := finalizeTun_eq_ok finished
  have sameFamily : config.listenFamily = family :=
    Config.listenFamily_version (congrArg Config.ipVersion same)
  subst same
  refine ⟨⟨version, fits_validCc cc, fits_validFirewallBackend known, known,
    fits_validTunName tunName, fitsHost, fitsGuest, ?_, writtenBackend.fits_endpoint smallBackend⟩,
    ?_⟩
  · unfold reloaded
    simp only
    rw [sameFamily]
    exact written.fits_endpoint small
  · unfold finalizeConfig reloaded
    simp only
    rw [sameFamily, listenAgain, backendAgain]
    simp only
    rw [if_neg Bool.noConfusion, if_neg (not_not.mpr version), if_neg Bool.noConfusion,
      if_pos trivial, known, if_neg Bool.noConfusion, if_neg (by simp), cc, if_neg Bool.noConfusion,
      tunName, if_neg Bool.noConfusion, if_neg (by simp)]
    exact finishes _ rfl rfl

end LastPass

end TcpShift.ServiceConfig
