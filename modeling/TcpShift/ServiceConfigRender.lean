import TcpShift.ServiceConfigCanonical

set_option autoImplicit false

/- A loaded configuration written out, line by line, and loaded from what was written. -/
namespace TcpShift.ServiceConfig

open Word CString

def newline : UInt8 := 0x0a
def blank : UInt8 := 0x20

section Lines

/-- A newline ends the line, and there is no other. -/
def Ended (line : List UInt8) : Prop := ∃ body, newline ∉ body ∧ line = body ++ [newline]

theorem getlines_append {body : List UInt8} (absent : newline ∉ body) (rest : List UInt8) :
    getlines (body ++ newline :: rest) = (body ++ [newline]) :: getlines rest := by
  induction body with
  | nil =>
      rw [List.nil_append, getlines]
      exact if_pos rfl
  | cons c body ih =>
      have other : c ≠ 0x0a := fun same => absent (same ▸ List.mem_cons_self)
      rw [List.cons_append, getlines, if_neg other,
        ih (fun member => absent (List.mem_cons_of_mem _ member))]
      rfl

theorem getlines_flatten_ended {lines : List (List UInt8)}
    (ended : ∀ line ∈ lines, Ended line) : getlines lines.flatten = lines := by
  induction lines with
  | nil => rfl
  | cons line rest ih =>
      obtain ⟨body, absent, rfl⟩ := ended line List.mem_cons_self
      rw [List.flatten_cons, List.append_assoc, List.singleton_append, getlines_append absent,
        ih (fun other member => ended other (List.mem_cons_of_mem _ member))]

theorem newline_notMem_escape (s : List UInt8) : newline ∉ escape s := by
  intro member
  obtain ⟨c, _, inByte⟩ := List.mem_flatMap.mp member
  unfold escapeByte at inByte
  split at inByte
  · revert inByte
    decide
  · split at inByte
    · revert inByte
      decide
    · split at inByte
      · revert inByte
        decide
      · rename_i notNewline
        split at inByte
        · revert inByte
          decide
        · split at inByte
          · revert inByte
            decide
          · exact notNewline (List.mem_singleton.mp inByte).symm

theorem length_escape_le (s : List UInt8) : (escape s).length ≤ 2 * s.length := by
  induction s with
  | nil => exact Nat.le_refl 0
  | cons c s ih =>
      have byte : (escapeByte c).length ≤ 2 := by
        rcases escapeByte_cases c with ⟨_, pair, _⟩ | ⟨single, _⟩
        · rw [pair]
          exact Nat.le_refl 2
        · rw [single]
          exact Nat.le_succ 1
      rw [escape_cons, List.length_append, List.length_cons]
      omega

/-- The line of a key with a string. -/
def stringLine (key : Key) (s : List UInt8) : List UInt8 :=
  renderLine key.name [blank] [blank] s [newline] []

theorem ended_stringLine (key : Key) (s : List UInt8) : Ended (stringLine key s) := by
  have ofName : newline ∉ key.name := by cases key <;> decide
  refine ⟨key.name ++ [blank] ++ equals :: ([blank] ++ quoted s), ?_, rfl⟩
  unfold quoted
  simp only [List.mem_append, List.mem_cons, not_or]
  exact ⟨⟨ofName, by decide⟩, by decide, by decide, by decide, newline_notMem_escape s, by decide⟩

theorem length_stringLine {key : Key} {s : List UInt8} {size : Nat} (fits : Fits size s) :
    (stringLine key s).length ≤ 2 * size + 23 := by
  have ofName : key.name.length ≤ 17 := by cases key <;> decide
  have ofString := length_escape_le s
  have short := fits.1
  unfold stringLine renderLine quoted
  simp only [List.length_append, List.length_cons, List.length_nil]
  omega

theorem readLine_stringLine {key : Key} {s : List UInt8} {size : Nat} (fits : Fits size s) :
    readLine (stringLine key s) = .assignment key.name (quoted s) := by
  have text : KeyText key.name := by cases key <;> decide
  exact readLine_renderLine text (by decide) (by decide) (by decide) (.inl rfl) fits.2

end Lines

/-- A configuration, one statement a line. -/
def renderLines (config : Config) : List (List UInt8) :=
  [ascii "version = " ++ printDecimal config.version ++ [newline],
    stringLine .cc config.cc,
    stringLine .firewallBackend config.firewallBackend,
    stringLine .tunName config.tunName,
    stringLine .tunHost config.tunHostCidr,
    stringLine .tunGuest config.tunGuestAddress,
    ascii "[[forward]]" ++ [newline],
    stringLine .listen (renderEndpoint config.listenFamily config.publicAddress config.publicPort),
    stringLine .backend (renderEndpoint .v4 loopback config.backendPort)]

def render (config : Config) : List UInt8 := (renderLines config).flatten

variable {config : Config}

theorem readLine_version :
    readLine (ascii "version = " ++ printDecimal supportedVersion ++ [newline]) =
      .assignment Key.version.name (ascii "1") := by
  decide +kernel

theorem readLine_header : readLine (ascii "[[forward]]" ++ [newline]) = .forward := by
  decide +kernel

theorem ended_renderLines (writable : config.Writable) :
    ∀ line ∈ renderLines config, Ended line := by
  have ofVersion : Ended (ascii "version = " ++ printDecimal supportedVersion ++ [newline]) :=
    ⟨_, by decide +kernel, rfl⟩
  have ofHeader : Ended (ascii "[[forward]]" ++ [newline]) := ⟨_, by decide +kernel, rfl⟩
  intro line member
  simp only [renderLines, writable.version, List.mem_cons, List.not_mem_nil, or_false] at member
  rcases member with rfl | rfl | rfl | rfl | rfl | rfl | rfl | rfl | rfl
  · exact ofVersion
  · exact ended_stringLine _ _
  · exact ended_stringLine _ _
  · exact ended_stringLine _ _
  · exact ended_stringLine _ _
  · exact ended_stringLine _ _
  · exact ofHeader
  · exact ended_stringLine _ _
  · exact ended_stringLine _ _

/-- The statements of a written configuration. -/
theorem statements_render (writable : config.Writable) :
    statements (render config) =
      [.assignment Key.version.name (ascii "1"),
        .assignment Key.cc.name (quoted config.cc),
        .assignment Key.firewallBackend.name (quoted config.firewallBackend),
        .assignment Key.tunName.name (quoted config.tunName),
        .assignment Key.tunHost.name (quoted config.tunHostCidr),
        .assignment Key.tunGuest.name (quoted config.tunGuestAddress),
        .forward,
        .assignment Key.listen.name (quoted (reloaded config).state.listen),
        .assignment Key.backend.name (quoted (reloaded config).state.backend)] := by
  have listen : readLine (stringLine .listen
      (renderEndpoint config.listenFamily config.publicAddress config.publicPort)) =
        .assignment Key.listen.name (quoted (reloaded config).state.listen) :=
    readLine_stringLine writable.listen
  have backend : readLine (stringLine .backend
      (renderEndpoint .v4 loopback config.backendPort)) =
        .assignment Key.backend.name (quoted (reloaded config).state.backend) :=
    readLine_stringLine writable.backend
  unfold statements render
  rw [getlines_flatten_ended (ended_renderLines writable)]
  unfold renderLines
  simp only [List.map_cons, List.map_nil, readLine_stringLine writable.cc,
    readLine_stringLine writable.firewallBackend, readLine_stringLine writable.tunName,
    readLine_stringLine writable.tunHost, readLine_stringLine writable.tunGuest]
  rw [writable.version, readLine_version, readLine_header, listen, backend]

section Accepting

/-- The room of the string of a key. -/
def Key.size : Key → Nat
  | .version => parsedBytes
  | .cc => ccMax
  | .firewallBackend => firewallBackendMax
  | .tunName => tunNameMax
  | .tunHost => addressMax
  | .tunGuest => addressMax
  | .listen => parsedBytes
  | .backend => parsedBytes

theorem parseString_fits {s : List UInt8} {size : Nat} (small : size ≤ parsedBytes)
    (fits : Fits size s) : parseString (quoted s) parsedBytes = some s := by
  apply parseString_quoted fits.2
  have short := fits.1
  unfold parsedBytes at small
  omega

theorem readField_fits {s : List UInt8} {size : Nat} (small : size ≤ parsedBytes)
    (fits : Fits size s) : readField (quoted s) size = some s := by
  unfold readField
  rw [parseString_fits small fits, Option.bind_some]
  exact if_neg (Nat.not_le_of_lt fits.1)

theorem Key.read_quoted {key : Key} {s : List UInt8} (isString : key ≠ .version)
    (fits : Fits key.size s) (known : key = .firewallBackend → validFirewallBackend s) :
    key.read (quoted s) = some (fun loader => key.store s 0 loader) := by
  cases key with
  | version => exact absurd rfl isString
  | cc =>
      have field : readField (quoted s) ccMax = some s := readField_fits (by decide) fits
      rw [Key.read, field]
      rfl
  | firewallBackend =>
      have field : readField (quoted s) firewallBackendMax = some s :=
        readField_fits (by decide) fits
      rw [Key.read, field, Option.bind_some, if_pos (known rfl)]
      rfl
  | tunName =>
      have field : readField (quoted s) tunNameMax = some s := readField_fits (by decide) fits
      rw [Key.read, field]
      rfl
  | tunHost | tunGuest =>
      have field : readField (quoted s) addressMax = some s := readField_fits (by decide) fits
      rw [Key.read, field]
      rfl
  | listen | backend =>
      rw [Key.read, parseString_fits (Nat.le_refl _) fits]
      rfl

theorem lookup_name (key : Key) : lookup (key ∈ forwardKeys) key.name = some key := by
  cases key <;> decide

/-- The line of a key that is not taken is accepted, in its part of the file. -/
theorem accept_quoted {loader : Loader} (key : Key) {s : List UInt8} (isString : key ≠ .version)
    (fits : Fits key.size s) (known : key = .firewallBackend → validFirewallBackend s)
    (part : loader.state.inForward = decide (key ∈ forwardKeys))
    (free : key.taken loader = false) :
    accept loader (.assignment key.name (quoted s)) = some (key.store s 0 loader) := by
  rw [accept_assignment, part, lookup_name, Option.bind_some]
  unfold assign
  rw [free, if_neg Bool.noConfusion, Key.read_quoted isString fits known]
  rfl

theorem accept_version {loader : Loader} (part : loader.state.inForward = false)
    (free : loader.state.haveVersion = false) :
    accept loader (.assignment Key.version.name (ascii "1")) =
      some (Key.store [] supportedVersion loader .version) := by
  have found : lookup false Key.version.name = some .version := lookup_name .version
  have read : Key.read (ascii "1") .version =
      some (fun loader => Key.store [] supportedVersion loader .version) := by
    have number : parseUnsigned (ascii "1") 0xffffffff = some supportedVersion := by
      decide +kernel
    rw [Key.read, number]
    rfl
  have untaken : Key.taken loader .version = false := free
  rw [accept_assignment, part, found, Option.bind_some]
  unfold assign
  rw [untaken, if_neg Bool.noConfusion, read]
  rfl

/-- Reading a written configuration assigns every key. -/
theorem run_render (writable : config.Writable) :
    Run.run accept {} (statements (render config)) = some (reloaded config) := by
  rw [statements_render writable]
  have plain : ∀ {key : Key}, key ≠ .firewallBackend → ∀ {s : List UInt8},
      key = .firewallBackend → validFirewallBackend s :=
    fun other _ same => absurd same other
  rw [Run.run_cons (accept_version rfl rfl),
    Run.run_cons (accept_quoted .cc (by decide) writable.cc (plain (by decide)) rfl rfl),
    Run.run_cons (accept_quoted .firewallBackend (by decide) writable.firewallBackend
      (fun _ => writable.known) rfl rfl),
    Run.run_cons (accept_quoted .tunName (by decide) writable.tunName (plain (by decide)) rfl rfl),
    Run.run_cons (accept_quoted .tunHost (by decide) writable.tunHost (plain (by decide)) rfl rfl),
    Run.run_cons (accept_quoted .tunGuest (by decide) writable.tunGuest (plain (by decide)) rfl rfl),
    Run.run_cons (accept_forward _),
    Run.run_cons (accept_quoted .listen (by decide) writable.listen (plain (by decide)) rfl rfl),
    Run.run_cons (accept_quoted .backend (by decide) writable.backend (plain (by decide)) rfl rfl),
    Run.run_nil]
  unfold reloaded
  rw [writable.version]
  rfl

end Accepting

theorem length_render (writable : config.Writable) : (render config).length ≤ maxBytes := by
  have version : (ascii "version = " ++ printDecimal supportedVersion ++ [newline]).length = 12 := by
    decide +kernel
  have header : (ascii "[[forward]]" ++ [newline]).length = 12 := by decide +kernel
  have cc := @length_stringLine .cc _ _ writable.cc
  have firewallBackend := @length_stringLine .firewallBackend _ _ writable.firewallBackend
  have tunName := @length_stringLine .tunName _ _ writable.tunName
  have tunHost := @length_stringLine .tunHost _ _ writable.tunHost
  have tunGuest := @length_stringLine .tunGuest _ _ writable.tunGuest
  have listen : (stringLine .listen (renderEndpoint config.listenFamily config.publicAddress
      config.publicPort)).length ≤ 2 * parsedBytes + 23 := length_stringLine writable.listen
  have backend : (stringLine .backend (renderEndpoint .v4 loopback config.backendPort)).length ≤
      2 * parsedBytes + 23 := length_stringLine writable.backend
  unfold render renderLines
  rw [List.length_flatten, writable.version]
  simp only [List.map_cons, List.map_nil, List.sum_cons, List.sum_nil]
  rw [version, header]
  unfold ccMax firewallBackendMax tunNameMax addressMax parsedBytes at *
  unfold maxBytes
  omega

theorem finalizeConfig_of_loadSource {inet : Inet} {path : List UInt8} {source : Source}
    (loaded : loadSource inet path source = .ok config) :
    ∃ loader, finalizeConfig inet loader = .ok config := by
  cases source with
  | unopened reason => cases loaded
  | opened bytes failed =>
      simp only [loadSource] at loaded
      cases read : readLines 0 0 {} (getlines bytes) with
      | error failure => simp [read] at loaded
      | ok loader =>
          cases failed with
          | some reason => simp [read] at loaded
          | none =>
              simp only [read] at loaded
              exact ⟨loader, loaded⟩

/-- A configuration that a load finished is loaded again from what it is written as. -/
theorem loadSource_render {inet : Inet} (canonical : inet.Canonical) {path : List UInt8}
    {source : Source} (loaded : loadSource inet path source = .ok config) (again : List UInt8) :
    (render config).length ≤ maxBytes ∧
      loadSource inet again (.opened (render config) none) = .ok config := by
  obtain ⟨loader, finalized⟩ := finalizeConfig_of_loadSource loaded
  obtain ⟨writable, finished⟩ := finalizeConfig_reloaded canonical finalized
  refine ⟨length_render writable, ?_⟩
  have answer := loadSource_toOption inet again none (length_render writable)
  rw [run_render writable, Option.bind_some] at answer
  simp only [finished] at answer
  cases load : loadSource inet again (.opened (render config) none) with
  | error failure =>
      rw [load] at answer
      cases answer
  | ok other =>
      rw [load] at answer
      cases answer
      rfl

/-- What no file may say: a key twice, a key of no table, a second table. -/
inductive Forbidden (lines : List Line) : Prop where
  | repeated {before between after : List Line} {name value text : List UInt8}
      (split : lines = before ++ .assignment name value ::
        (between ++ .assignment name text :: after))
  | unknown {before after : List Line} {name value : List UInt8}
      (split : lines = before ++ .assignment name value :: after)
      (none : ∀ key ∈ if .forward ∈ before then forwardKeys else topKeys, name ≠ key.name)
  | secondForward {before between after : List Line}
      (split : lines = before ++ .forward :: (between ++ .forward :: after))

theorem run_forbidden {lines : List Line} (forbidden : Forbidden lines) :
    Run.run accept {} lines = none := by
  cases forbidden with
  | repeated split =>
      rw [split]
      exact run_repeated _ _ _ _ _ _
  | unknown split none =>
      rw [split]
      exact run_unknown _ _ none
  | secondForward split =>
      rw [split]
      exact run_second_forward _ _ _

/-- The order of the statements within a part of the file, blank lines and comments do not
matter; forbidden statements fail; a failure clears the configuration; a loaded configuration
is loaded again from what it is written as. -/
theorem load_order_strict_atomic (inet : Inet) :
    (∀ path bytes other failed config, bytes.length ≤ maxBytes → other.length ≤ maxBytes →
        Rearranged (statements bytes) (statements other) →
        outcome (load inet path (.opened bytes failed) config) =
          outcome (load inet path (.opened other failed) config)) ∧
      (∀ spaces remark, Spaces spaces → Remark remark → readLine (spaces ++ remark) = .blank) ∧
      (∀ path bytes failed config, Forbidden (statements bytes) →
        (outcome (load inet path (.opened bytes failed) config)).1 = false) ∧
      (∀ path source config, path ≠ [] →
        (outcome (load inet (some path) source config)).1 = false →
        (outcome (load inet (some path) source config)).2 = {}) ∧
      (inet.Canonical → ∀ path again source config other loaded,
        path ≠ [] → again ≠ [] → load inet (some path) source config = (.ok (), loaded) →
        (render loaded).length ≤ maxBytes ∧
          load inet (some again) (.opened (render loaded) none) other = (.ok (), loaded)) := by
  refine ⟨?_, ?_, ?_, ?_, ?_⟩
  · intro path bytes other failed config small small' rearranged
    exact load_rearranged inet path failed config small small' rearranged
  · intro spaces remark allSpaces isRemark
    exact readLine_blank allSpaces isRemark
  · intro path bytes failed config forbidden
    exact load_refused inet path failed config (run_forbidden forbidden)
  · intro path source config some'
    exact load_atomic source config some'
  · intro canonical path again source config other loaded named namedAgain finished
    obtain ⟨c, rest, rfl⟩ := List.exists_cons_of_ne_nil named
    obtain ⟨c', rest', rfl⟩ := List.exists_cons_of_ne_nil namedAgain
    have finishedSource : loadSource inet (c :: rest) source = .ok loaded := by
      simp only [load] at finished
      cases answer : loadSource inet (c :: rest) source with
      | error failure => simp [answer] at finished
      | ok config =>
          rw [answer] at finished
          cases finished
          rfl
    obtain ⟨small, loadedAgain⟩ := loadSource_render canonical finishedSource (c' :: rest')
    refine ⟨small, ?_⟩
    simp only [load, loadedAgain]

section Witness

def exampleAddresses : List (List UInt8 × List UInt8) :=
  [(ascii "203.0.113.10", [203, 0, 113, 10]), (ascii "127.0.0.1", [127, 0, 0, 1]),
    (ascii "198.18.0.1", [198, 18, 0, 1]), (ascii "198.18.0.2", [198, 18, 0, 2]),
    (ascii "255.255.255.252", [255, 255, 255, 252])]

/-- The C library on the addresses of the example. -/
def exampleInet : Inet where
  pton family text :=
    if family = .v4 then
      (exampleAddresses.find? (fun entry => entry.1 = text)).map (fun entry => entry.2)
    else none
  ntop _ packed :=
    ((exampleAddresses.find? (fun entry => entry.2 = packed)).map (fun entry => entry.1)).getD []

theorem canonical_exampleInet : exampleInet.Canonical := by
  have listed : ∀ entry ∈ exampleAddresses,
      exampleInet.pton .v4 (exampleInet.ntop .v4 entry.2) = some entry.2 ∧
        exampleInet.ntop .v4 entry.2 ≠ [] ∧
        ∀ c ∈ exampleInet.ntop .v4 entry.2, Family.v4.writes c := by
    decide +kernel
  have known : ∀ family text packed, exampleInet.pton family text = some packed →
      family = .v4 ∧ ∃ entry ∈ exampleAddresses, entry.2 = packed := by
    intro family text packed read
    simp only [exampleInet] at read
    split at read
    · obtain ⟨entry, found, same⟩ := Option.map_eq_some_iff.mp read
      exact ⟨‹_›, entry, List.mem_of_find?_eq_some found, same⟩
    · cases read
  constructor
  · intro family text packed read
    obtain ⟨rfl, entry, member, rfl⟩ := known family text packed read
    exact (listed entry member).1
  · intro family text packed read
    obtain ⟨rfl, entry, member, rfl⟩ := known family text packed read
    exact (listed entry member).2.1
  · intro family text packed read
    obtain ⟨rfl, entry, member, rfl⟩ := known family text packed read
    exact (listed entry member).2.2

def exampleFile : List UInt8 :=
  ascii "version = 1\ncc = \"bbr\"\n[[forward]]\n" ++
    ascii "listen = \"203.0.113.10:443\"\nbackend = \"127.0.0.1:8443\"\n"

def exampleShuffled : List UInt8 :=
  ascii "# one listener\ncc = \"bbr\"\n\nversion = 1\n[[forward]]\n" ++
    ascii "backend = \"127.0.0.1:8443\"\nlisten = \"203.0.113.10:443\""

def exampleVersion : Line := .assignment (ascii "version") (ascii "1")
def exampleCc : Line := .assignment (ascii "cc") (ascii "\"bbr\"")
def exampleListen : Line := .assignment (ascii "listen") (ascii "\"203.0.113.10:443\"")
def exampleBackend : Line := .assignment (ascii "backend") (ascii "\"127.0.0.1:8443\"")

def exampleConfig : Config :=
  (load exampleInet (some (ascii "service.toml")) (.opened exampleFile none) {}).2

theorem load_order_strict_atomic_example :
    outcome (load exampleInet (some (ascii "service.toml")) (.opened exampleFile none) {}) =
        outcome (load exampleInet (some (ascii "service.toml")) (.opened exampleShuffled none) {}) ∧
      load exampleInet (some (ascii "again.toml")) (.opened (render exampleConfig) none) {} =
        (.ok (), exampleConfig) := by
  have answered : (load exampleInet (some (ascii "service.toml")) (.opened exampleFile none) {}).1 =
      .ok () := by
    decide +kernel
  have finished : load exampleInet (some (ascii "service.toml")) (.opened exampleFile none) {} =
      (.ok (), exampleConfig) := by
    unfold exampleConfig
    generalize load exampleInet (some (ascii "service.toml")) (.opened exampleFile none) {} =
      answer at answered ⊢
    exact Prod.ext answered rfl
  have rearranged : Rearranged (statements exampleFile) (statements exampleShuffled) := by
    have file : statements exampleFile =
        [exampleVersion, exampleCc] ++ .forward :: [exampleListen, exampleBackend] := by
      decide +kernel
    have shuffled : statements exampleShuffled =
        .blank :: exampleCc :: .blank ::
          ([exampleVersion] ++ .forward :: [exampleBackend, exampleListen]) := by
      decide +kernel
    have first : spoken ([exampleVersion, exampleCc] ++ .forward :: [exampleListen, exampleBackend]) =
        [exampleVersion, exampleCc] ++ .forward :: [exampleListen, exampleBackend] := by
      decide +kernel
    have second : spoken (.blank :: exampleCc :: .blank ::
        ([exampleVersion] ++ .forward :: [exampleBackend, exampleListen])) =
          [exampleCc, exampleVersion] ++ .forward :: [exampleBackend, exampleListen] := by
      decide +kernel
    rw [file, shuffled]
    exact .table (by decide +kernel) first second (.swap _ _ _) (.swap _ _ _)
  obtain ⟨order, _, _, _, again⟩ := load_order_strict_atomic exampleInet
  refine ⟨order _ _ _ _ _ (by decide +kernel) (by decide +kernel) rearranged, ?_⟩
  exact (again canonical_exampleInet _ _ _ _ _ _ (by decide) (by decide) finished).2

end Witness

end TcpShift.ServiceConfig
