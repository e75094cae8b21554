import AronaApi.Lib.GoStd

/-! Addresses and hosts as Go's packages `net`, `net/netip` and `net/url` read them: `netip.ParseAddr`
(which the dialer asks first) with zones, `net.ParseIP` without them, networks, and the two ways of
taking the port off a host. An address of version 4 is, as in Go, the same as its mapped form in
version 6. -/
namespace NetAddr
open GoStd

abbrev Byte := BitVec 8

/-- `net.IP`: four or sixteen bytes, none for the address that is not there. -/
abbrev IP := List Byte

def v4InV6Prefix : IP := List.replicate 10 0++[0xff,0xff]

/-- `net.IPv4`: the mapped form. -/
def ipv4 (a b c d : Byte) : IP := v4InV6Prefix++[a,b,c,d]

def ipv6Unspecified : IP := List.replicate 16 0

def ipv6Loopback : IP := List.replicate 15 0++[1]

def to4 (ip : IP) : Option IP :=
  if ip.length=4 then some ip
  else if ip.length=16 ∧ ip.take 12=v4InV6Prefix then some (ip.drop 12) else none

/-- `IP.Equal`: an address and its mapped form are equal. -/
def equal (ip x : IP) : Bool :=
  if ip.length=x.length then ip == x
  else if ip.length=4 ∧ x.length=16 then x.take 12 == v4InV6Prefix && ip == x.drop 12
  else if ip.length=16 ∧ x.length=4 then ip.take 12 == v4InV6Prefix && ip.drop 12 == x
  else false

def isUnspecified (ip : IP) : Bool := equal ip (ipv4 0 0 0 0) || equal ip ipv6Unspecified

def isLoopback (ip : IP) : Bool :=
  match to4 ip with
  | some ip4 => ip4[0]? == some 127
  | none => equal ip ipv6Loopback

/-- The test on the leading bytes that an address of version 6 has to pass. -/
def leads6 (test : Byte → Byte → Bool) (ip : IP) : Bool :=
  match ip with
  | a::b::_ => ip.length == 16 && test a b
  | _ => false

def isLinkLocalUnicast (ip : IP) : Bool :=
  match to4 ip with
  | some ip4 => ip4[0]? == some 169 && ip4[1]? == some 254
  | none => leads6 (fun a b => a == 0xfe && b &&& 0xc0 == 0x80) ip

def isLinkLocalMulticast (ip : IP) : Bool :=
  match to4 ip with
  | some ip4 => ip4[0]? == some 224 && ip4[1]? == some 0 && ip4[2]? == some 0
  | none => leads6 (fun a b => a == 0xff && b &&& 0x0f == 0x02) ip

def isInterfaceLocalMulticast (ip : IP) : Bool := leads6 (fun a b => a == 0xff && b &&& 0x0f == 0x01) ip

def isPrivate (ip : IP) : Bool :=
  match to4 ip with
  | some ip4 =>
    ip4[0]? == some 10 || (ip4[0]? == some 172 && ip4[1]?.map (· &&& 0xf0) == some 16) ||
      (ip4[0]? == some 192 && ip4[1]? == some 168)
  | none => leads6 (fun a _ => a &&& 0xfe == 0xfc) ip

/-- `net.CIDRMask`. -/
def cidrMask (ones bits : ℕ) : List Byte :=
  (List.range (bits/8)).map fun i => (0xff : Byte) <<< (8-min 8 (ones-8*i))

/-- `net.IPNet`. -/
structure Network where
  ip : IP
  mask : List Byte
  deriving DecidableEq

/-- `IP.Mask`. -/
def applyMask (ip : IP) (mask : List Byte) : Option IP :=
  let mask := if mask.length=16 ∧ ip.length=4 ∧ mask.take 12=List.replicate 12 0xff then mask.drop 12 else mask
  let ip := if mask.length=4 ∧ ip.length=16 ∧ ip.take 12=v4InV6Prefix then ip.drop 12 else ip
  if ip.length=mask.length then some (List.zipWith (· &&& ·) ip mask) else none

/-- `networkNumberAndMask`: a network of version 4 may be written with the longer mask. -/
def numberAndMask (n : Network) : Option (IP × List Byte) :=
  let ip := (to4 n.ip).getD n.ip
  if ip.length≠4 ∧ ip.length≠16 then none
  else if n.mask.length=ip.length then some (ip,n.mask)
  else if n.mask.length=16 ∧ ip.length=4 then some (ip,n.mask.drop 12)
  else none

def Network.contains (n : Network) (ip : IP) : Bool :=
  match numberAndMask n with
  | none => false
  | some (number,mask) =>
    let ip := (to4 ip).getD ip
    ip.length == number.length && List.zipWith (· &&& ·) number mask == List.zipWith (· &&& ·) ip mask

/-- `netip.Addr`: an address of version 6 has sixteen bytes and may name a zone. -/
inductive Addr where
  | v4 (a b c d : Byte)
  | v6 (bytes : { ip : IP // ip.length=16 }) (zone : String)
  deriving DecidableEq

def Addr.as16 : Addr → IP
  | .v4 a b c d => ipv4 a b c d
  | .v6 bytes _ => bytes.1

def Addr.zone : Addr → String
  | .v4 .. => ""
  | .v6 _ zone => zone

def Addr.bitLen : Addr → ℕ
  | .v4 .. => 32
  | .v6 .. => 128

def digitValue (c : Char) : ℕ := c.toNat - '0'.toNat

def decimal (digits : List Char) : ℕ := digits.foldl (fun n c => n*10+digitValue c) 0

/-- One field of a dotted address: no sign, no leading zero. -/
def parseOctet (field : List Char) : Option Byte :=
  if field≠[] ∧ field.all Char.isDigit ∧ (field.head? = some '0' → field.length=1) ∧ decimal field≤255
  then some (BitVec.ofNat 8 (decimal field)) else none

def parseIPv4Fields (s : List Char) : Option IP :=
  let fields := s.splitOn '.'
  if fields.length=4 then fields.mapM parseOctet else none

def isHexDigit (c : Char) : Bool := c.isDigit || ('a' ≤ c && c ≤ 'f') || ('A' ≤ c && c ≤ 'F')

def hexValue (c : Char) : ℕ :=
  if c.isDigit then digitValue c else if 'a' ≤ c then c.toNat - 'a'.toNat+10 else c.toNat - 'A'.toNat+10

def hexadecimal (digits : List Char) : ℕ := digits.foldl (fun n c => n*16+hexValue c) 0

/-- The loop of `parseIPv6`: the bytes read so far and where the ellipsis stood, with room for the
given number of further groups. -/
def parseGroups : ℕ → List Char → IP → Option ℕ → Option (IP × Option ℕ)
  | 0,s,ip,ellipsis => if s=[] then some (ip,ellipsis) else none
  | room+1,s,ip,ellipsis =>
    let digits := s.takeWhile isHexDigit
    let rest := s.dropWhile isHexDigit
    if digits=[] ∨ 4<digits.length then none
    else if rest.head? = some '.' then
      if (ellipsis=none ∧ ip.length≠12) ∨ 16 < ip.length+4 then none
      else (parseIPv4Fields s).map fun v4 => (ip++v4,ellipsis)
    else
      let value := hexadecimal digits
      let ip := ip++[BitVec.ofNat 8 (value/256),BitVec.ofNat 8 value]
      match rest with
      | [] => some (ip,ellipsis)
      | [_] => none
      | ':' :: ':' :: rest =>
        if ellipsis.isSome then none
        else if rest=[] then some (ip,some ip.length)
        else parseGroups room rest ip (some ip.length)
      | ':' :: rest => parseGroups room rest ip ellipsis
      | _ => none

/-- The zeros the ellipsis stands for are filled in. -/
def expand (ip : IP) (ellipsis : Option ℕ) : Option IP :=
  match ellipsis with
  | none => if ip.length<16 then none else some ip
  | some i => if ip.length<16 then some (ip.take i++List.replicate (16-ip.length) 0++ip.drop i) else none

def parseBytes6 (s : List Char) : Option IP :=
  match s with
  | [':',':'] => some ipv6Unspecified
  | ':' :: ':' :: s => (parseGroups 8 s [] (some 0)).bind fun read => expand read.1 read.2
  | _ => (parseGroups 8 s [] none).bind fun read => expand read.1 read.2

def parseIPv6 (s : List Char) : Option Addr :=
  let (body,zone) := match cut ['%'] s with
    | none => (s,none)
    | some (body,zone) => (body,some zone)
  if zone=some [] then none
  else do
    let ip ← parseBytes6 body
    if h : ip.length=16 then some (.v6 ⟨ip,h⟩ (String.ofList (zone.getD []))) else none

/-- `netip.ParseAddr`: the first of `.`, `:` and `%` says what kind of address is meant. -/
def parseAddr (s : String) : Option Addr :=
  match s.toList.find? (fun c => c == '.' || c == ':' || c == '%') with
  | some '.' => do
    let ip ← parseIPv4Fields s.toList
    match ip with
    | [a,b,c,d] => some (.v4 a b c d)
    | _ => none
  | some ':' => parseIPv6 s.toList
  | _ => none

/-- `net.ParseIP`: an address that names a zone is none. -/
def parseIP (s : String) : Option IP :=
  match parseAddr s with
  | some a => if a.zone = "" then some a.as16 else none
  | none => none

/-- `net.ParseCIDR`, the network of it. -/
def parseCIDR (s : String) : Option Network := do
  let (addr,mask) ← cut ['/'] s.toList
  let a ← parseAddr (String.ofList addr)
  if a.zone ≠ "" ∨ mask=[] ∨ mask.all Char.isDigit=false ∨ a.bitLen<decimal mask then none
  else
    let m := cidrMask (decimal mask) a.bitLen
    (applyMask a.as16 m).map fun ip => ⟨ip,m⟩

/-- `net.SplitHostPort`, without the texts of its errors. -/
def splitHostPort (hostport : String) : Option (String × String) := do
  let (port,host) ← cut [':'] hostport.toList.reverse
  let (host,port) := (host.reverse,port.reverse)
  if host.head? = some '[' then
    if host.getLast? = some ']' ∧ ']' ∉ host.dropLast ∧ '[' ∉ host.tail ∧ '[' ∉ port ∧ ']' ∉ port
    then some (String.ofList host.dropLast.tail,String.ofList port) else none
  else if ':' ∈ host ∨ '[' ∈ host ∨ ']' ∈ host ∨ '[' ∈ port ∨ ']' ∈ port then none
  else some (String.ofList host,String.ofList port)

/-- `URL.Hostname`: a port that may be one is taken off, and the brackets after it. -/
def hostname (hostport : String) : String :=
  let host := match cut [':'] hostport.toList.reverse with
    | some (port,host) => if port.all Char.isDigit then host.reverse else hostport.toList
    | none => hostport.toList
  if host.head? = some '[' ∧ host.getLast? = some ']' then String.ofList host.dropLast.tail
  else String.ofList host

/-- Where both take off a port, and the port may be one, they leave the same host. -/
lemma hostname_of_splitHostPort {hostport host port : String} (h : splitHostPort hostport=some (host,port))
    (hport : port.toList.all Char.isDigit=true) : hostname hostport=host := by
  unfold splitHostPort at h
  unfold hostname
  cases hcut : cut [':'] hostport.toList.reverse with
  | none =>
    rw [hcut] at h
    cases h
  | some parts =>
    obtain ⟨revPort,revHost⟩ := parts
    simp only [hcut,Option.bind_eq_bind,Option.bind_some] at h ⊢
    split at h
    next hbrac =>
      split at h
      next hinr =>
        cases h
        rw [String.toList_ofList,List.all_reverse] at hport
        rw [if_pos hport,if_pos ⟨hbrac,hinr.1⟩]
      · cases h
    next hbrac =>
    split at h
    · cases h
    cases h
    rw [String.toList_ofList,List.all_reverse] at hport
    rw [if_pos hport,if_neg (fun hb => hbrac hb.1)]
end NetAddr
