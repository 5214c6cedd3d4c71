import ZyAgf.Xl2tpd.Daemon

set_option autoImplicit false

namespace ZyAgf.Xl2tpd.Options

def strLen : Nat := 100
def udpListenPort : Int := 1701

-- The fields of struct lns and struct lac that only the option handlers use.
structure LnsItem extends Lns where
  exclusive : Bool
  callRws : Int
deriving DecidableEq

structure LacItem extends Lac where
  callRws : Int
  autodial : Bool
deriving DecidableEq

structure Global where
  listenaddr : Nat
  port : Int
  authfile : CString
  accesscontrol : Bool
  forceuserspace : Bool
  packetDump : Bool
  debugAvp : Bool
  debugNetwork : Bool
  debugTunnel : Bool
  debugState : Bool
  ipsecsaref : Bool
  sarefnum : Int
  maxRetries : Int
  capBackoff : Int
deriving DecidableEq

-- What the void pointer of a handler points to. The context a handler is called
-- in is CONTEXT_GLOBAL, CONTEXT_LNS or CONTEXT_LAC after the kind of the item.
inductive Item where
  | global (g : Global)
  | lns (n : LnsItem)
  | lac (l : LacItem)
deriving DecidableEq

inductive RandSource where
  | sys
  | dev
  | egd
deriving DecidableEq

-- What a handler may change: the item, the text of the last error, and the one
-- option that is kept outside the items.
structure Parser where
  item : Item
  filerr : CString
  randSource : RandSource
deriving DecidableEq

-- gethostbyname's answer to the n-th question an option asks, and what lies on
-- the stack where set_range keeps ip_hi, from the byte before it.
structure Surroundings where
  hostAddr : Nat → CString → Option Nat
  stack : Nat → UInt8

abbrev Done := Int × Parser

def done (p : Parser) : Done := (0, p)

def Parser.hold (p : Parser) (item : Item) : Parser := { p with item := item }

def refuse (message : CString) (p : Parser) : Done := (-1, { p with filerr := message.take (strLen - 1) })

def notValid (word : CString) (p : Parser) : Done :=
  refuse (text "'" ++ word ++ text "' not valid in this context\n") p

def toInt (value : CString) : Int :=
  (max (-9223372036854775808) (min 9223372036854775807 (atoi value))).bmod 4294967296

def yesno (value : CString) : Option Bool :=
  if sameName value (text "yes") || sameName value (text "y") || sameName value (text "true") then some true
  else if sameName value (text "no") || sameName value (text "n") || sameName value (text "false") then some false
  else none

def setBoolean (word value : CString) (store : Bool → Item) (p : Parser) : Done :=
  match yesno value with
  | some val => done (p.hold (store val))
  | none => refuse (word ++ text " must be 'yes' or 'no'\n") p

def setInt (word value : CString) (store : Int → Item) (p : Parser) : Done :=
  if toInt value < 0 then refuse (word ++ text " must be a number\n") p
  else done (p.hold (store (toInt value)))

def setString (value : CString) (store : CString → Item) (p : Parser) : Done :=
  done (p.hold (store (value.take strLen)))

def setIp (env : Surroundings) (value : CString) (store : Nat → Item) (p : Parser) : Done :=
  match env.hostAddr 0 value with
  | some addr => done (p.hold (store addr))
  | none => refuse (text "set_ip: host '" ++ value ++ text "' not found\n") p

-- The handlers whose switch over the context only chooses the field. A context
-- without a field is refused.
def booleanOption (word value : CString) (field : Item → Option (Bool → Item)) (p : Parser) : Done :=
  match field p.item with
  | some store => setBoolean word value store p
  | none => notValid word p

-- As booleanOption, where what set_int returns is not looked at.
def numberOption (word value : CString) (field : Item → Option (Int → Item)) (p : Parser) : Done :=
  match field p.item with
  | some store => done (setInt word value store p).2
  | none => notValid word p

def stringOption (word value : CString) (field : Item → Option (CString → Item)) (p : Parser) : Done :=
  match field p.item with
  | some store => setString value store p
  | none => notValid word p

def setPort (word value : CString) (p : Parser) : Done :=
  numberOption word value (fun | .global g => some fun v => .global { g with port := v } | _ => none) p

def setRtimeout (word value : CString) (p : Parser) : Done :=
  if toInt value < 1 then refuse (text "rtimeout value must be at least 1\n") p
  else numberOption word value (fun | .lac l => some fun v => .lac { l with rtimeout := v } | _ => none) p

def tunRws : Item → Int
  | .lac l => l.tunRws
  | .lns n => n.tunRws
  | .global _ => 0

-- The two branches of set_rws, which differ in the record they store into. The
-- tunnel's window is tested after it is stored.
def rwsOption (word value : CString) (callRws tunnelRws : Int → Item) (p : Parser) : Done :=
  if word.head? = some 99 then done (setInt word value callRws p).2
  else if word.head? = some 116 then
    let p := (setInt word value tunnelRws p).2
    if tunRws p.item < 1 then refuse (text "receive window size for tunnels must be at least 1\n") p
    else done p
  else done p

def setRws (word value : CString) (p : Parser) : Done :=
  if toInt value < -1 then refuse (text "receive window size must be at least -1\n") p
  else
    match p.item with
    | .lac l =>
        rwsOption word value (fun v => .lac { l with callRws := v }) (fun v => .lac { l with tunRws := v }) p
    | .lns n =>
        rwsOption word value (fun v => .lns { n with callRws := v }) (fun v => .lns { n with tunRws := v }) p
    | .global _ => notValid word p

def setSpeed (word value : CString) (p : Parser) : Done :=
  if toInt value < 1 then refuse (text "bps must be greater than zero\n") p
  else
    numberOption word value
      (fun
        | .lac l =>
            some fun v =>
              if word.head? = some 116 then .lac { l with txspeed := v }
              else if word.head? = some 114 then .lac { l with rxspeed := v }
              else .lac { l with rxspeed := v, txspeed := v }
        | .lns n =>
            some fun v =>
              if word.head? = some 116 then .lns { n with txspeed := v }
              else if word.head? = some 114 then .lns { n with rxspeed := v }
              else .lns { n with rxspeed := v, txspeed := v }
        | .global _ => none) p

def setMaxretries (word value : CString) (p : Parser) : Done :=
  numberOption word value (fun | .global g => some fun v => .global { g with maxRetries := v } | _ => none) p

def setCapbackoff (word value : CString) (p : Parser) : Done :=
  numberOption word value (fun | .global g => some fun v => .global { g with capBackoff := v } | _ => none) p

def setRmax (word value : CString) (p : Parser) : Done :=
  if toInt value < 1 then refuse (text "rmax value must be at least 1\n") p
  else numberOption word value (fun | .lac l => some fun v => .lac { l with rmax := v } | _ => none) p

def setAuthfile (word value : CString) (p : Parser) : Done :=
  if value.length = 0 then refuse (text "no filename specified for authentication\n") p
  else stringOption word value (fun | .global g => some fun v => .global { g with authfile := v } | _ => none) p

def setAutodial (word value : CString) (p : Parser) : Done :=
  booleanOption word value (fun | .lac l => some fun v => .lac { l with autodial := v } | _ => none) p

-- The flag is read before the context is looked at, and a window that is there
-- already stays.
def setFlow (word value : CString) (p : Parser) : Done :=
  match yesno value with
  | none => refuse (word ++ text " must be 'yes' or 'no'\n") p
  | some v =>
      let window := fun (rws : Int) => if v then (if rws < 0 then 0 else rws) else -1
      match p.item with
      | .lac l => done (p.hold (.lac { l with callRws := window l.callRws }))
      | .lns n => done (p.hold (.lns { n with callRws := window n.callRws }))
      | .global _ => notValid word p

def setDefaultroute (word value : CString) (p : Parser) : Done :=
  booleanOption word value (fun | .lac l => some fun v => .lac { l with defaultroute := v } | _ => none) p

def setAuthname (word value : CString) (p : Parser) : Done :=
  stringOption word value
    (fun
      | .lns n => some fun v => .lns { n with ppp := { n.ppp with authname := v } }
      | .lac l => some fun v => .lac { l with ppp := { l.ppp with authname := v } }
      | .global _ => none) p

def setHostname (word value : CString) (p : Parser) : Done :=
  stringOption word value
    (fun
      | .lns n => some fun v => .lns { n with hostname := v }
      | .lac l => some fun v => .lac { l with hostname := v }
      | .global _ => none) p

def setPasswdauth (word value : CString) (p : Parser) : Done :=
  booleanOption word value (fun | .lns n => some fun v => .lns { n with passwdauth := v } | _ => none) p

def setHbit (word value : CString) (p : Parser) : Done :=
  booleanOption word value
    (fun
      | .lac l => some fun v => .lac { l with hbit := v }
      | .lns n => some fun v => .lns { n with hbit := v }
      | .global _ => none) p

def setChallenge (word value : CString) (p : Parser) : Done :=
  booleanOption word value
    (fun
      | .lac l => some fun v => .lac { l with challenge := v }
      | .lns n => some fun v => .lns { n with challenge := v }
      | .global _ => none) p

def setLbit (word value : CString) (p : Parser) : Done :=
  booleanOption word value
    (fun
      | .lac l => some fun v => .lac { l with lbit := v }
      | .lns n => some fun v => .lns { n with lbit := v }
      | .global _ => none) p

def setDebug (word value : CString) (p : Parser) : Done :=
  booleanOption word value
    (fun
      | .lac l => some fun v => .lac { l with ppp := { l.ppp with debug := v } }
      | .lns n => some fun v => .lns { n with ppp := { n.ppp with debug := v } }
      | .global _ => none) p

def setPassPeer (word value : CString) (p : Parser) : Done :=
  booleanOption word value
    (fun
      | .lac l => some fun v => .lac { l with ppp := { l.ppp with passPeer := v } }
      | .lns n => some fun v => .lns { n with ppp := { n.ppp with passPeer := v } }
      | .global _ => none) p

def setPppoptfile (word value : CString) (p : Parser) : Done :=
  stringOption word value
    (fun
      | .lns n => some fun v => .lns { n with ppp := { n.ppp with pppoptfile := v } }
      | .lac l => some fun v => .lac { l with ppp := { l.ppp with pppoptfile := v } }
      | .global _ => none) p

-- Which field set_papchap means: c is the first letter after the blank, and the
-- third letter of the word tells refuse from require.
def papchapField (word : CString) (result : Bool) (auth : PppAuth) : PppAuth :=
  let c := ((word.dropWhile (· ≠ 32)).drop 1).headD 0
  let refuses := word.getD 2 0 = 102
  if c = 112 then
    if refuses then { auth with papRefuse := result } else { auth with papRequire := result }
  else if c = 97 then
    if refuses then { auth with authself := !result } else { auth with authpeer := result }
  else if refuses then { auth with chapRefuse := result }
  else { auth with chapRequire := result }

def setPapchap (word value : CString) (p : Parser) : Done :=
  match yesno value with
  | none => refuse (word ++ text " must be 'yes' or 'no'\n") p
  | some result =>
      match p.item with
      | .lac l => done (p.hold (.lac { l with ppp := papchapField word result l.ppp }))
      | .lns n => done (p.hold (.lns { n with ppp := papchapField word result n.ppp }))
      | .global _ => notValid word p

def setRedial (word value : CString) (p : Parser) : Done :=
  booleanOption word value (fun | .lac l => some fun v => .lac { l with redial := v } | _ => none) p

def setAccesscontrol (word value : CString) (p : Parser) : Done :=
  booleanOption word value (fun | .global g => some fun v => .global { g with accesscontrol := v } | _ => none) p

def setUserspace (word value : CString) (p : Parser) : Done :=
  booleanOption word value (fun | .global g => some fun v => .global { g with forceuserspace := v } | _ => none) p

def setDebugavp (word value : CString) (p : Parser) : Done :=
  booleanOption word value (fun | .global g => some fun v => .global { g with debugAvp := v } | _ => none) p

def setDebugnetwork (word value : CString) (p : Parser) : Done :=
  booleanOption word value (fun | .global g => some fun v => .global { g with debugNetwork := v } | _ => none) p

def setDebugpacket (word value : CString) (p : Parser) : Done :=
  booleanOption word value (fun | .global g => some fun v => .global { g with packetDump := v } | _ => none) p

def setDebugtunnel (word value : CString) (p : Parser) : Done :=
  booleanOption word value (fun | .global g => some fun v => .global { g with debugTunnel := v } | _ => none) p

def setDebugstate (word value : CString) (p : Parser) : Done :=
  booleanOption word value (fun | .global g => some fun v => .global { g with debugState := v } | _ => none) p

def setAssignip (word value : CString) (p : Parser) : Done :=
  booleanOption word value (fun | .lns n => some fun v => .lns { n with assignIp := v } | _ => none) p

def setExclusive (word value : CString) (p : Parser) : Done :=
  booleanOption word value (fun | .lns n => some fun v => .lns { n with exclusive := v } | _ => none) p

-- A byte below 33 of a signed char.
def blank (byte : UInt8) : Bool := byte < 33 || 128 ≤ byte

theorem blank_behind (body white : CString) (blanks : ∀ byte ∈ white, blank byte = true)
    (ends : ∀ last, body.getLast? = some last → blank last = false) :
    ((body ++ white).reverse.dropWhile blank).reverse = body := by
  rw [List.reverse_append, List.dropWhile_append_of_pos (by simpa using blanks)]
  cases reversed : body.reverse with
  | nil => simpa using reversed.symm
  | cons last rest =>
      have final : body.getLast? = some last := by
        rw [← List.head?_reverse, reversed]
        rfl
      rw [List.dropWhile_cons_of_neg (by simp [ends last final]), ← reversed, List.reverse_reverse]

-- The value as set_range cuts it at the first dash.
def ends (value : CString) : CString × Option CString :=
  match value.dropWhile (· ≠ 45) with
  | [] => (value, none)
  | _ :: rest => (((value.takeWhile (· ≠ 45)).reverse.dropWhile blank).reverse, some (rest.dropWhile blank))

def strcpy (memory : Nat → UInt8) (start : Nat) (string : CString) : Nat → UInt8 := fun i =>
  if i < start then memory i
  else if i < start + string.length then string.getD (i - start) 0
  else if i = start + string.length then 0
  else memory i

-- The loop over ip_hi from one byte behind it, down to the place after the dot
-- that leaves count dots behind. It ends before ip_hi when there is no such dot.
def lastFields (memory : Nat → UInt8) : Nat → Int → Nat
  | 0, _ => 0
  | e + 1, count =>
      let count := if memory (e + 1) = 46 then count - 1 else count
      if count < 0 then e + 2 else lastFields memory e count

-- The name that the end of the range is looked up under. An end with fewer than
-- three dots is put behind the first fields of the start, in ip_hi, whose 16
-- bytes begin at 1. The difference of the pointers is compared as a size_t.
def highName (stack : Nat → UInt8) (low high : CString) : CString :=
  if high.count 46 < 3 then
    let ipHi := strcpy stack 1 low
    let e := lastFields ipHi 17 (high.count 46)
    if 17 < e ∨ high.length < 17 - e then
      let ipHi := strcpy ipHi e high
      ((List.range (low.length + high.length + 19)).map fun i => ipHi (i + 1)).takeWhile (· ≠ 0)
    else high
  else high

def rangeStop (env : Surroundings) (low : CString) (start : Nat) : Option CString → Except CString Nat
  | none => .ok start
  | some high =>
      let name := highName env.stack low high
      match env.hostAddr 1 name with
      | some stop => .ok stop
      | none => .error (text "Unknown host " ++ name ++ text "\n")

-- set_range, whose null pointer is an error here. The new range is the last.
def setRange (env : Surroundings) (word value : CString) (ranges : List IpRange) : Except CString (List IpRange) :=
  let (low, high) := ends value
  if low.length = 0 ∨ high = some [] then
    .error (text "format is '" ++ word ++ text " <host or ip> - <host or ip>'\n")
  else
    match env.hostAddr 0 low with
    | none => .error (text "Unknown host " ++ low ++ text "\n")
    | some start =>
        match rangeStop env low start high with
        | .error message => .error message
        | .ok stop =>
            if stop < start then .error (text "start is greater than end!\n")
            else .ok (ranges ++ [⟨start, stop, word.head? ≠ some 110⟩])

-- What set_range returns is the list from now on, also when it is null.
def rangeOption (env : Surroundings) (word value : CString) (ranges : List IpRange) (store : List IpRange → Item)
    (p : Parser) : Done :=
  match setRange env word value ranges with
  | .ok ranges => done (p.hold (store ranges))
  | .error message => refuse message (p.hold (store []))

def setIprange (env : Surroundings) (word value : CString) (p : Parser) : Done :=
  match p.item with
  | .lns n => rangeOption env word value n.range (fun r => .lns { n with range := r }) p
  | _ => notValid word p

def setLocaliprange (env : Surroundings) (word value : CString) (p : Parser) : Done :=
  match p.item with
  | .lns n =>
      if n.localaddr ≠ 0 then refuse (text "'local ip range' and 'local ip' are mutually exclusive\n") p
      else rangeOption env word value n.localrange (fun r => .lns { n with localrange := r }) p
  | _ => notValid word p

def setLac (env : Surroundings) (word value : CString) (p : Parser) : Done :=
  match p.item with
  | .lns n => rangeOption env word value n.lacs (fun r => .lns { n with lacs := r }) p
  | _ => notValid word p

def setListenaddr (env : Surroundings) (word value : CString) (p : Parser) : Done :=
  match p.item with
  | .global g => setIp env value (fun v => .global { g with listenaddr := v }) p
  | _ => notValid word p

def setLocaladdr (env : Surroundings) (word value : CString) (p : Parser) : Done :=
  match p.item with
  | .lac l => setIp env value (fun v => .lac { l with localaddr := v }) p
  | .lns n =>
      if n.localrange ≠ [] then refuse (text "'local ip range' and 'local ip' are mutually exclusive\n") p
      else setIp env value (fun v => .lns { n with localaddr := v }) p
  | .global _ => notValid word p

def setRemoteaddr (env : Surroundings) (word value : CString) (p : Parser) : Done :=
  match p.item with
  | .lac l => setIp env value (fun v => .lac { l with remoteaddr := v }) p
  | _ => notValid word p

-- Of the port only the low 16 bits are ever put into an address.
def setLns (word value : CString) (p : Parser) : Done :=
  match p.item with
  | .lac l =>
      let port :=
        match value.dropWhile (· ≠ 58) with
        | [] => udpListenPort
        | _ :: rest => toInt rest
      let ipr : Host := ⟨(value.takeWhile (· ≠ 58)).take strLen, BitVec.ofInt 16 port⟩
      done (p.hold (.lac { l with lns := l.lns ++ [ipr] }))
  | _ => notValid word p

def setIpsecSaref (word value : CString) (p : Parser) : Done :=
  booleanOption word value
    (fun
      | .global g => some fun v => .global { g with ipsecsaref := v, forceuserspace := g.forceuserspace || v }
      | _ => none) p

def setSarefNum (word value : CString) (p : Parser) : Done :=
  numberOption word value (fun | .global g => some fun v => .global { g with sarefnum := v } | _ => none) p

def setRandSys (p : Parser) : Done := done { p with randSource := .sys }

def setRandDev (p : Parser) : Done := done { p with randSource := .dev }

-- Not implemented, and still remembered as the source.
def setRandEgd (p : Parser) : Done := (-1, { p with randSource := .egd })

-- The one handler that compares the context with CONTEXT_DEFAULT left in it. Two
-- of its errors say nothing in filerr.
def setRandSource (value : CString) (inDefault : Bool) (p : Parser) : Done :=
  match p.item, inDefault with
  | .global _, false =>
      if value.length = 0 then refuse (text "no randomness source specified\n") p
      else if value.take 3 = text "egd" then setRandEgd p
      else if value.take 3 = text "dev" then setRandDev p
      else if value.take 3 = text "sys" then setRandSys p
      else (-1, p)
  | _, _ => (-1, p)

inductive Handler where
  | listenaddr | port | sarefNum | randSource | authfile | exclusive | autodial | redial | rtimeout | lns | rmax
  | accesscontrol | userspace | iprange | debugavp | debugnetwork | debugpacket | debugtunnel | debugstate
  | ipsecSaref | lac | assignip | localaddr | localiprange | remoteaddr | defaultroute | lbit | hbit | papchap
  | passwdauth | authname | hostname | debug | passPeer | pppoptfile | rws | flow | challenge | speed | maxretries
  | capbackoff
deriving DecidableEq

def Handler.call (env : Surroundings) (word value : CString) (inDefault : Bool) (p : Parser) : Handler → Done
  | .listenaddr => setListenaddr env word value p
  | .port => setPort word value p
  | .sarefNum => setSarefNum word value p
  | .randSource => setRandSource value inDefault p
  | .authfile => setAuthfile word value p
  | .exclusive => setExclusive word value p
  | .autodial => setAutodial word value p
  | .redial => setRedial word value p
  | .rtimeout => setRtimeout word value p
  | .lns => setLns word value p
  | .rmax => setRmax word value p
  | .accesscontrol => setAccesscontrol word value p
  | .userspace => setUserspace word value p
  | .iprange => setIprange env word value p
  | .debugavp => setDebugavp word value p
  | .debugnetwork => setDebugnetwork word value p
  | .debugpacket => setDebugpacket word value p
  | .debugtunnel => setDebugtunnel word value p
  | .debugstate => setDebugstate word value p
  | .ipsecSaref => setIpsecSaref word value p
  | .lac => setLac env word value p
  | .assignip => setAssignip word value p
  | .localaddr => setLocaladdr env word value p
  | .localiprange => setLocaliprange env word value p
  | .remoteaddr => setRemoteaddr env word value p
  | .defaultroute => setDefaultroute word value p
  | .lbit => setLbit word value p
  | .hbit => setHbit word value p
  | .papchap => setPapchap word value p
  | .passwdauth => setPasswdauth word value p
  | .authname => setAuthname word value p
  | .hostname => setHostname word value p
  | .debug => setDebug word value p
  | .passPeer => setPassPeer word value p
  | .pppoptfile => setPppoptfile word value p
  | .rws => setRws word value p
  | .flow => setFlow word value p
  | .challenge => setChallenge word value p
  | .speed => setSpeed word value p
  | .maxretries => setMaxretries word value p
  | .capbackoff => setCapbackoff word value p

def words : List (String × Handler) :=
  [("listen-addr", .listenaddr), ("port", .port), ("saref refinfo", .sarefNum), ("rand source", .randSource),
   ("auth file", .authfile), ("exclusive", .exclusive), ("autodial", .autodial), ("redial", .redial),
   ("redial timeout", .rtimeout), ("lns", .lns), ("max redials", .rmax), ("access control", .accesscontrol),
   ("force userspace", .userspace), ("ip range", .iprange), ("no ip range", .iprange), ("debug avp", .debugavp),
   ("debug network", .debugnetwork), ("debug packet", .debugpacket), ("debug tunnel", .debugtunnel),
   ("debug state", .debugstate), ("ipsec saref", .ipsecSaref), ("lac", .lac), ("no lac", .lac),
   ("assign ip", .assignip), ("local ip", .localaddr), ("local ip range", .localiprange),
   ("remote ip", .remoteaddr), ("defaultroute", .defaultroute), ("length bit", .lbit), ("hidden bit", .hbit),
   ("require pap", .papchap), ("require chap", .papchap), ("require authentication", .papchap),
   ("require auth", .papchap), ("refuse pap", .papchap), ("refuse chap", .papchap),
   ("refuse authentication", .papchap), ("refuse auth", .papchap), ("unix authentication", .passwdauth),
   ("unix auth", .passwdauth), ("name", .authname), ("hostname", .hostname), ("ppp debug", .debug),
   ("pass peer", .passPeer), ("pppoptfile", .pppoptfile), ("call rws", .rws), ("tunnel rws", .rws),
   ("flow bit", .flow), ("challenge", .challenge), ("tx bps", .speed), ("rx bps", .speed), ("bps", .speed),
   ("max retries", .maxretries), ("cap backoff", .capbackoff)]

def keyword (word : CString) : Option Handler :=
  (words.find? fun kw => sameName word (text kw.1)).map Prod.snd

def parseOneOption (env : Surroundings) (word value : CString) (inDefault : Bool) (p : Parser) : Done :=
  match keyword word with
  | some handler =>
      let (result, p) := handler.call env word value inDefault p
      (if result ≠ 0 then -1 else 0, p)
  | none => (-2, p)

end ZyAgf.Xl2tpd.Options
