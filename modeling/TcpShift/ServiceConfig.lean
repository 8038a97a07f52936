import TcpShift.ServiceConfigText

set_option autoImplicit false

/- Loading a service configuration: the lines of the file are assigned to keys, and a last
pass fills the defaults and brings the addresses into their canonical form. -/
namespace TcpShift.ServiceConfig

open Word CString

def supportedVersion : Nat := 1
def maxBytes : Nat := 1024 * 1024
def ccMax : Nat := 16
def firewallBackendMax : Nat := 16
def tunNameMax : Nat := 16
def addressMax : Nat := 64

inductive Family where
  | v4
  | v6
deriving DecidableEq

def Family.version : Family → Nat
  | .v4 => 4
  | .v6 => 6

def Family.bytes : Family → Nat
  | .v4 => 4
  | .v6 => 16

/-- `inet_pton` and `inet_ntop` of the C library. -/
structure Inet where
  pton : Family → List UInt8 → Option (List UInt8)
  ntop : Family → List UInt8 → List UInt8

/-- `inet_ntop` fails for a buffer without room for the text and its NUL. -/
def Inet.ntopInto (inet : Inet) (family : Family) (packed : List UInt8) (size : Nat) :
    Option (List UInt8) :=
  let text := inet.ntop family packed
  if text.length < size then some text else none

structure Config where
  version : Nat := 0
  ipVersion : Nat := 0
  cc : List UInt8 := []
  firewallBackend : List UInt8 := []
  tunName : List UInt8 := []
  tunHostAddress : List UInt8 := []
  tunHostCidr : List UInt8 := []
  tunGuestAddress : List UInt8 := []
  tunNetmask : List UInt8 := []
  publicAddress : List UInt8 := []
  publicPort : Nat := 0
  backendPort : Nat := 0
deriving DecidableEq

structure ParseState where
  haveVersion : Bool := false
  haveCc : Bool := false
  haveFirewallBackend : Bool := false
  haveTunName : Bool := false
  haveTunHost : Bool := false
  haveTunGuest : Bool := false
  haveForward : Bool := false
  haveListen : Bool := false
  haveBackend : Bool := false
  inForward : Bool := false
  listen : List UInt8 := []
  backend : List UInt8 := []
deriving DecidableEq

structure Loader where
  config : Config := {}
  state : ParseState := {}
deriving DecidableEq

inductive Key where
  | version
  | cc
  | firewallBackend
  | tunName
  | tunHost
  | tunGuest
  | listen
  | backend
deriving DecidableEq

def Key.name : Key → List UInt8
  | .version => ascii "version"
  | .cc => ascii "cc"
  | .firewallBackend => ascii "firewall_backend"
  | .tunName => ascii "tun_name"
  | .tunHost => ascii "tun_host_address"
  | .tunGuest => ascii "tun_guest_address"
  | .listen => ascii "listen"
  | .backend => ascii "backend"

/-- Why a load failed. -/
inductive Failure where
  | invalidPath
  | opening (path reason : List UInt8)
  | tooLarge
  | nul (line : Nat)
  | secondForward
  | table (line : Nat)
  | noSeparator (line : Nat)
  | invalid (line : Nat)
  | badAssignment (key : Key) (line : Nat)
  | unknownForwardKey (name : List UInt8) (line : Nat)
  | unknownKey (name : List UInt8) (line : Nat)
  | reading (path reason : List UInt8)
  | missing (key : Key)
  | unsupportedVersion (version : Nat)
  | badFirewallBackend
  | incompleteForward
  | badCc (name : List UInt8)
  | badTunName
  | badListen
  | badBackend
  | badTunHost (ipVersion : Nat)
  | badTunGuest (ipVersion : Nat)
  | sameAddress
deriving DecidableEq

def Failure.message : Failure → List UInt8
  | .invalidPath => ascii "configuration path is invalid"
  | .opening path reason =>
      ascii "opening configuration '" ++ path ++ ascii "' failed: " ++ reason
  | .tooLarge => ascii "configuration exceeds the 1 MiB limit"
  | .nul line => ascii "configuration contains a NUL byte at line " ++ printDecimal line
  | .secondForward =>
      ascii "configuration version 1 supports exactly one [[forward]] table"
  | .table line => ascii "unsupported table syntax at line " ++ printDecimal line
  | .noSeparator line => ascii "expected key = value at line " ++ printDecimal line
  | .invalid line => ascii "invalid assignment at line " ++ printDecimal line
  | .badAssignment .listen line =>
      ascii "invalid or duplicate forward listen at line " ++ printDecimal line
  | .badAssignment .backend line =>
      ascii "invalid or duplicate forward backend at line " ++ printDecimal line
  | .badAssignment key line =>
      ascii "invalid or duplicate " ++ key.name ++ ascii " at line " ++ printDecimal line
  | .unknownForwardKey name line =>
      ascii "unknown forward key '" ++ name ++ ascii "' at line " ++ printDecimal line
  | .unknownKey name line =>
      ascii "unknown configuration key '" ++ name ++ ascii "' at line " ++ printDecimal line
  | .reading path reason =>
      ascii "reading configuration '" ++ path ++ ascii "' failed: " ++ reason
  | .missing key => ascii "missing required configuration key '" ++ key.name ++ ascii "'"
  | .unsupportedVersion version =>
      ascii "unsupported configuration version " ++ printDecimal version ++
        ascii " (expected " ++ printDecimal supportedVersion ++ ascii ")"
  | .badFirewallBackend => ascii "firewall_backend must be one of auto|nftables|iptables|none"
  | .incompleteForward =>
      ascii "configuration requires exactly one complete [[forward]] table"
  | .badCc name => ascii "invalid congestion-control name '" ++ name ++ ascii "'"
  | .badTunName => ascii "invalid TUN name"
  | .badListen => ascii "forward listen must use literal IPv4:port or [IPv6]:port syntax"
  | .badBackend => ascii "forward backend must use 127.0.0.1:port"
  | .badTunHost ipVersion =>
      ascii "tun_host_address must be an IPv" ++ printDecimal ipVersion ++
        ascii " CIDR matching the listener family"
  | .badTunGuest ipVersion =>
      ascii "tun_guest_address must be an IPv" ++ printDecimal ipVersion ++
        ascii " address matching the listener family"
  | .sameAddress => ascii "TUN host and guest addresses must be distinct"

/-- A digit first, then `strtoul` to the end of the text; `unsigned long` is a 64-bit word. -/
def parseUnsigned (value : List UInt8) (maximum : Nat) : Option Nat :=
  match value with
  | [] => none
  | c :: _ =>
      if isDigit c then
        match strtoull value with
        | .value parsed [] => if parsed > maximum then none else some parsed
        | _ => none
      else none

/-- The end of `parse_endpoint`, behind the two syntaxes. -/
def endpoint (inet : Inet) (family : Family) (raw portText : List UInt8) :
    Option (Family × List UInt8 × Nat) :=
  if raw.length = 0 ∨ raw.length ≥ addressMax then none
  else
    match parseUnsigned portText 65535 with
    | none => none
    | some port =>
        if port = 0 then none
        else
          match inet.pton family raw with
          | none => none
          | some packed =>
              if packed = List.replicate family.bytes 0 then none
              else (inet.ntopInto family packed addressMax).map fun address =>
                (family, address, port)

def parseEndpoint (inet : Inet) (text : List UInt8) : Option (Family × List UInt8 × Nat) :=
  if text.head? = some bracket then
    match cut 0x5d text with
    | some (opened, 0x3a :: c :: port) => endpoint inet .v6 opened.tail (c :: port)
    | _ => none
  else
    match cutLast 0x3a text with
    | none => none
    | some (raw, port) => if 0x3a ∈ raw then none else endpoint inet .v4 raw port

def validCc (name : List UInt8) : Bool :=
  name.length ≠ 0 && name.length < ccMax &&
    name.all (fun c => (0x61 ≤ c && c ≤ 0x7a) || isDigit c || c = 0x5f || c = 0x2d)

def validFirewallBackend (name : List UInt8) : Bool :=
  name = ascii "auto" || name = ascii "nftables" || name = ascii "iptables" || name = ascii "none"

def validTunName (name : List UInt8) : Bool :=
  name.length < tunNameMax &&
    name.all (fun c => (0x41 ≤ c && c ≤ 0x5a) || (0x61 ≤ c && c ≤ 0x7a) || isDigit c ||
      c = 0x5f || c = 0x2d || c = 0x2e)

/-- The four bytes of the mask, in network order. -/
def netmask (bits : Nat) : List UInt8 :=
  let mask := if bits = 0 then 0 else (0xffffffff * 2 ^ (32 - bits)) % 2 ^ 32
  [mask / 2 ^ 24, mask / 2 ^ 16, mask / 2 ^ 8, mask].map (fun byte => UInt8.ofNat byte)

def slash : UInt8 := 0x2f

/-- The address, the CIDR text and the netmask text. -/
def parseCidr (inet : Inet) (text : List UInt8) (family : Family) :
    Option (List UInt8 × List UInt8 × List UInt8) :=
  if text.length ≥ addressMax then none
  else
    match cutLast slash text with
    | none => none
    | some (raw, bitsText) =>
        if raw = [] ∨ bitsText = [] then none
        else
          match parseUnsigned bitsText (8 * family.bytes) with
          | none => none
          | some bits =>
              match inet.pton family raw with
              | none => none
              | some packed =>
                  match inet.ntopInto family packed addressMax with
                  | none => none
                  | some address =>
                      let cidr := address ++ slash :: printDecimal bits
                      if cidr.length ≥ addressMax then none
                      else
                        match family with
                        | .v4 => (inet.ntopInto .v4 (netmask bits) addressMax).map fun mask =>
                            (address, cidr, mask)
                        | .v6 => some (address, cidr, [])

def canonicalIp (inet : Inet) (text : List UInt8) (family : Family) : Option (List UInt8) :=
  (inet.pton family text).bind fun packed => inet.ntopInto family packed addressMax

def sameIp (inet : Inet) (left right : List UInt8) (family : Family) : Bool :=
  match inet.pton family left, inet.pton family right with
  | some a, some b => a = b
  | _, _ => false

/-- The string of a key, bounded by its field. -/
def readField (value : List UInt8) (size : Nat) : Option (List UInt8) :=
  (parseString value parsedBytes).bind fun parsed =>
    if parsed.length ≥ size then none else some parsed

/-- Whether the key has been assigned. -/
def Key.taken (loader : Loader) : Key → Bool
  | .version => loader.state.haveVersion
  | .cc => loader.state.haveCc
  | .firewallBackend => loader.state.haveFirewallBackend
  | .tunName => loader.state.haveTunName
  | .tunHost => loader.state.haveTunHost
  | .tunGuest => loader.state.haveTunGuest
  | .listen => loader.state.haveListen
  | .backend => loader.state.haveBackend

/-- The check of a value, and how it is stored. -/
def Key.read (value : List UInt8) : Key → Option (Loader → Loader)
  | .version => (parseUnsigned value 0xffffffff).map fun number loader =>
      { config := { loader.config with version := number }
        state := { loader.state with haveVersion := true } }
  | .cc => (readField value ccMax).map fun parsed loader =>
      { config := { loader.config with cc := parsed }
        state := { loader.state with haveCc := true } }
  | .firewallBackend =>
      (readField value firewallBackendMax).bind fun parsed =>
        if validFirewallBackend parsed then some fun loader =>
          { config := { loader.config with firewallBackend := parsed }
            state := { loader.state with haveFirewallBackend := true } }
        else none
  | .tunName => (readField value tunNameMax).map fun parsed loader =>
      { config := { loader.config with tunName := parsed }
        state := { loader.state with haveTunName := true } }
  | .tunHost => (readField value addressMax).map fun parsed loader =>
      { config := { loader.config with tunHostCidr := parsed }
        state := { loader.state with haveTunHost := true } }
  | .tunGuest => (readField value addressMax).map fun parsed loader =>
      { config := { loader.config with tunGuestAddress := parsed }
        state := { loader.state with haveTunGuest := true } }
  | .listen => (parseString value parsedBytes).map fun parsed loader =>
      { loader with state := { loader.state with listen := parsed, haveListen := true } }
  | .backend => (parseString value parsedBytes).map fun parsed loader =>
      { loader with state := { loader.state with backend := parsed, haveBackend := true } }

def topKeys : List Key := [.version, .cc, .firewallBackend, .tunName, .tunHost, .tunGuest]
def forwardKeys : List Key := [.listen, .backend]

/-- The key of that name, among those of the table the line is in. -/
def lookup (inForward : Bool) (name : List UInt8) : Option Key :=
  (if inForward then forwardKeys else topKeys).find? (fun key => name = key.name)

def assign (loader : Loader) (key : Key) (value : List UInt8) : Option Loader :=
  if key.taken loader then none else (key.read value).map (fun store => store loader)

def applyLine (number : Nat) (loader : Loader) : Line → Except Failure Loader
  | .nul => .error (.nul number)
  | .blank => .ok loader
  | .forward =>
      if loader.state.haveForward then .error .secondForward
      else .ok { loader with state := { loader.state with haveForward := true, inForward := true } }
  | .table => .error (.table number)
  | .noSeparator => .error (.noSeparator number)
  | .invalid => .error (.invalid number)
  | .assignment name value =>
      match lookup loader.state.inForward name with
      | none =>
          .error (if loader.state.inForward then .unknownForwardKey name number
            else .unknownKey name number)
      | some key =>
          match assign loader key value with
          | none => .error (.badAssignment key number)
          | some next => .ok next

/-- The lines of `getline`, each with the newline that ends it. -/
def getlines : List UInt8 → List (List UInt8)
  | [] => []
  | c :: rest =>
      if c = 0x0a then [c] :: getlines rest
      else
        match getlines rest with
        | [] => [[c]]
        | line :: others => (c :: line) :: others

def readLines : Nat → Nat → Loader → List (List UInt8) → Except Failure Loader
  | _, _, loader, [] => .ok loader
  | number, total, loader, line :: rest =>
      if total + line.length > maxBytes then .error .tooLarge
      else
        match applyLine (number + 1) loader (readLine line) with
        | .error failure => .error failure
        | .ok next => readLines (number + 1) (total + line.length) next rest

def defaultHost : Family → List UInt8
  | .v4 => ascii "198.18.0.1/30"
  | .v6 => ascii "fd00:198:18::1/126"

def defaultGuest : Family → List UInt8
  | .v4 => ascii "198.18.0.2"
  | .v6 => ascii "fd00:198:18::2"

def loopback : List UInt8 := ascii "127.0.0.1"

/-- The addresses of the TUN interface, behind the endpoints of the last pass. -/
def finalizeTun (inet : Inet) (state : ParseState) (config : Config) (family : Family) :
    Except Failure Config :=
  let hostText := if state.haveTunHost then config.tunHostCidr else defaultHost family
  match parseCidr inet hostText family with
  | none => .error (.badTunHost family.version)
  | some (host, cidr, mask) =>
      let guestText := if state.haveTunGuest then config.tunGuestAddress else defaultGuest family
      match canonicalIp inet guestText family with
      | none => .error (.badTunGuest family.version)
      | some guest =>
          if sameIp inet host guest family then .error .sameAddress
          else
            .ok { config with
              tunHostAddress := host
              tunHostCidr := cidr
              tunNetmask := mask
              tunGuestAddress := guest }

def finalizeConfig (inet : Inet) (loader : Loader) : Except Failure Config :=
  let state := loader.state
  let config := loader.config
  if state.haveVersion = false then .error (.missing .version)
  else if config.version ≠ supportedVersion then .error (.unsupportedVersion config.version)
  else if state.haveCc = false then .error (.missing .cc)
  else
    let firewallBackend :=
      if state.haveFirewallBackend then config.firewallBackend else ascii "auto"
    if validFirewallBackend firewallBackend = false then .error .badFirewallBackend
    else if state.haveForward = false ∨ state.haveListen = false ∨ state.haveBackend = false then
      .error .incompleteForward
    else if validCc config.cc = false then .error (.badCc config.cc)
    else if validTunName config.tunName = false then .error .badTunName
    else
      match parseEndpoint inet state.listen with
      | none => .error .badListen
      | some (family, address, port) =>
          match parseEndpoint inet state.backend with
          | none => .error .badBackend
          | some (backendFamily, backendAddress, backendPort) =>
              if backendFamily ≠ .v4 ∨ backendAddress ≠ loopback then .error .badBackend
              else
                finalizeTun inet state
                  { config with
                    firewallBackend := firewallBackend
                    publicAddress := address
                    publicPort := port
                    backendPort := backendPort
                    ipVersion := family.version } family

/-- What the file system answers: no stream, or the bytes of one and whether reading them
failed at the end. -/
inductive Source where
  | unopened (reason : List UInt8)
  | opened (bytes : List UInt8) (failed : Option (List UInt8))
deriving DecidableEq

/-- The load once the configuration is cleared. -/
def loadSource (inet : Inet) (path : List UInt8) : Source → Except Failure Config
  | .unopened reason => .error (.opening path reason)
  | .opened bytes failed =>
      match readLines 0 0 {} (getlines bytes) with
      | .error failure => .error failure
      | .ok loader =>
          match failed with
          | some reason => .error (.reading path reason)
          | none => finalizeConfig inet loader

/-- The return value, and the configuration behind the pointer; `none` is a null path. -/
def load (inet : Inet) (path : Option (List UInt8)) (source : Source) (config : Config) :
    Except Failure Unit × Config :=
  match path with
  | none => (.error .invalidPath, config)
  | some [] => (.error .invalidPath, config)
  | some path =>
      match loadSource inet path source with
      | .error failure => (.error failure, {})
      | .ok loaded => (.ok (), loaded)

end TcpShift.ServiceConfig
