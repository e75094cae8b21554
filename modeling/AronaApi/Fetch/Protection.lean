import AronaApi.Lib.NetAddr

/-! The check every URL has to pass before the server fetches it (`ssrf_protection.go`). What the code
takes from Go's library and from the network is gathered in `Library`; reading addresses, networks and
hosts is in `NetAddr`. -/
namespace AronaApi.Fetch
open GoStd NetAddr

/-- The parts of `url.URL` that are read. -/
structure Url where
  scheme : String
  host : String

structure Library where
  /-- `url.Parse`; an error is its text -/
  parse : String → Except String Url
  /-- what follows the colon of a parsed host is checked by `url.Parse` -/
  digits_of_parse : ∀ {s u host port}, parse s=.ok u → splitHostPort u.host=some (host,port) →
    port.toList.all Char.isDigit=true
  /-- `unicode.ToLower` -/
  toLower : Char → Char
  toLower_ascii : ∀ c : Char, c.val<128 → toLower c=c.toLower
  /-- `IP.String` -/
  ipString : IP → String
  /-- the resolver, for a host that is no address -/
  resolve : String → Except String (List IP)

/-- `strings.ToLower`. -/
def Library.lower (lib : Library) (s : String) : String := String.ofList (s.toList.map lib.toLower)

/-- `net.LookupIP`: an address, also one with a zone, resolves to itself. -/
def Library.lookupIP (lib : Library) (host : String) : Except String (List IP) :=
  match parseAddr host with
  | some a => .ok [a.as16]
  | none => if host = "" then .error "lookup : no such host" else lib.resolve host

structure SSRFProtection where
  allowPrivateIp : Bool := false
  /-- whether the list of domains is the list of the allowed ones -/
  domainFilterMode : Bool := true
  domainList : List String := []
  ipFilterMode : Bool := true
  ipList : List String := []
  allowedPorts : List ℤ := []
  applyIPFilterForDomain : Bool := false

open SSRFProtection

def privateIPv4Nets : List Network := [
  ⟨ipv4 0 0 0 0,cidrMask 8 32⟩,
  ⟨ipv4 10 0 0 0,cidrMask 8 32⟩,
  ⟨ipv4 100 64 0 0,cidrMask 10 32⟩,
  ⟨ipv4 127 0 0 0,cidrMask 8 32⟩,
  ⟨ipv4 169 254 0 0,cidrMask 16 32⟩,
  ⟨ipv4 172 16 0 0,cidrMask 12 32⟩,
  ⟨ipv4 192 0 0 0,cidrMask 24 32⟩,
  ⟨ipv4 192 0 2 0,cidrMask 24 32⟩,
  ⟨ipv4 192 168 0 0,cidrMask 16 32⟩,
  ⟨ipv4 198 18 0 0,cidrMask 15 32⟩,
  ⟨ipv4 198 51 100 0,cidrMask 24 32⟩,
  ⟨ipv4 203 0 113 0,cidrMask 24 32⟩,
  ⟨ipv4 224 0 0 0,cidrMask 4 32⟩,
  ⟨ipv4 240 0 0 0,cidrMask 4 32⟩,
  ⟨ipv4 255 255 255 255,cidrMask 32 32⟩]

def privateIPv6Nets : List Network :=
  ["::/128","::1/128","::ffff:0:0/96","64:ff9b::/96","100::/64","2001::/23","2001:db8::/32","fc00::/7",
    "fe80::/10","ff00::/8"].filterMap parseCIDR

def isPrivateIP (ip : IP) : Bool :=
  if ip=[] then true
  else if isUnspecified ip then true
  else if isLoopback ip || isLinkLocalUnicast ip || isLinkLocalMulticast ip then true
  else if isInterfaceLocalMulticast ip then true
  else match to4 ip with
    | some v4 => privateIPv4Nets.any (·.contains v4)
    | none => privateIPv6Nets.any (·.contains ip) || isPrivate ip

/-- Whether one entry of the list, trimmed and in lower case, stands for the domain in lower case. -/
def entryMatches (domain item : String) : Bool :=
  item ≠ "" && (domain == item ||
    (hasPrefix item "*." &&
      (hasSuffix domain ("."++trimPrefix item "*.") || domain == trimPrefix item "*.")))

def isDomainListed (lib : Library) (domain : String) (list : List String) : Bool :=
  list.any fun item => entryMatches (lib.lower domain) (lib.lower (trimSpace item))

/-- `IsIpInCIDRList`: an entry is a network or one address. -/
def isIpInCIDRList (ip : IP) (list : List String) : Bool :=
  list.any fun cidr =>
    match parseCIDR cidr with
    | some network => network.contains ip
    | none => (parseIP cidr).any (equal ip)

namespace SSRFProtection

def isAllowedPort (p : SSRFProtection) (port : ℤ) : Bool := p.allowedPorts.isEmpty || p.allowedPorts.contains port

def isDomainAllowed (p : SSRFProtection) (lib : Library) (domain : String) : Bool :=
  if p.domainFilterMode then isDomainListed lib domain p.domainList else !isDomainListed lib domain p.domainList

def isIPAccessAllowed (p : SSRFProtection) (ip : IP) : Bool :=
  if isPrivateIP ip && !p.allowPrivateIp then false
  else if p.ipFilterMode then isIpInCIDRList ip p.ipList else !isIpInCIDRList ip p.ipList

def checkResolved (p : SSRFProtection) (lib : Library) (host : String) : List IP → Except String Unit
  | [] => .ok ()
  | ip::ips =>
    if p.isIPAccessAllowed ip then p.checkResolved lib host ips
    else if isPrivateIP ip && !p.allowPrivateIp then
      .error ("private IP address not allowed: "++host++" resolves to "++lib.ipString ip)
    else if p.ipFilterMode then .error ("ip not in whitelist: "++host++" resolves to "++lib.ipString ip)
    else .error ("ip in blacklist: "++host++" resolves to "++lib.ipString ip)

/-- What is left of `ValidateURL` once scheme and port have passed. -/
def validateHost (p : SSRFProtection) (lib : Library) (host : String) : Except String Unit :=
  match parseIP host with
  | some ip =>
    if p.isIPAccessAllowed ip then .ok ()
    else if isPrivateIP ip then .error ("private IP address not allowed: "++lib.ipString ip)
    else if p.ipFilterMode then .error ("ip not in whitelist: "++lib.ipString ip)
    else .error ("ip in blacklist: "++lib.ipString ip)
  | none =>
    if !p.isDomainAllowed lib host then
      if p.domainFilterMode then .error ("domain not in whitelist: "++host)
      else .error ("domain in blacklist: "++host)
    else if !p.applyIPFilterForDomain then .ok ()
    else
      match lib.lookupIP host with
      | .error e => .error ("DNS resolution failed for "++host++": "++e)
      | .ok ips => p.checkResolved lib host ips
end SSRFProtection

def Url.hostPort (u : Url) : String × String :=
  match splitHostPort u.host with
  | some (host,port) => (host,port)
  | none => (hostname u.host,if u.scheme = "https" then "443" else "80")

def SSRFProtection.validateURL (p : SSRFProtection) (lib : Library) (urlStr : String) : Except String Unit :=
  match lib.parse urlStr with
  | .error e => .error ("invalid URL format: "++e)
  | .ok u =>
    if u.scheme ≠ "http" ∧ u.scheme ≠ "https" then
      .error ("unsupported protocol: "++u.scheme++" (only http/https allowed)")
    else
      match atoi u.hostPort.2 with
      | none => .error ("invalid port: "++u.hostPort.2)
      | some port =>
        if !p.isAllowedPort port then .error ("port "++toString port++" is not allowed")
        else p.validateHost lib u.hostPort.1

variable {p : SSRFProtection} {lib : Library} {host urlStr : String}
lemma checkResolved_ok_iff {ips : List IP} :
    p.checkResolved lib host ips=.ok () ↔ ∀ ip∈ips, p.isIPAccessAllowed ip=true := by
  induction ips with
  | nil => simp [checkResolved]
  | cons ip ips ih =>
    rw [checkResolved,List.forall_mem_cons,← ih]
    by_cases hip : p.isIPAccessAllowed ip=true
    · rw [if_pos hip]
      simp [hip]
    rw [if_neg hip]
    constructor
    · intro h
      split at h
      · cases h
      split at h
      · cases h
      · cases h
    · intro h
      exact absurd h.1 hip

lemma validateHost_address_iff {ip : IP} (h : parseIP host=some ip) :
    p.validateHost lib host=.ok () ↔ p.isIPAccessAllowed ip=true := by
  simp only [validateHost,h]
  by_cases hip : p.isIPAccessAllowed ip=true
  · rw [if_pos hip]
    simp [hip]
  rw [if_neg hip]
  constructor
  · intro hok
    split at hok
    · cases hok
    split at hok
    · cases hok
    · cases hok
  · intro hip'
    exact absurd hip' hip

def SSRFProtection.Resolves (p : SSRFProtection) (lib : Library) (host : String) : Prop :=
  p.applyIPFilterForDomain=true → ∃ ips, lib.lookupIP host=.ok ips ∧ ∀ ip∈ips, p.isIPAccessAllowed ip=true

lemma validateHost_domain_iff (h : parseIP host=none) :
    p.validateHost lib host=.ok () ↔ p.isDomainAllowed lib host=true ∧ p.Resolves lib host := by
  simp only [validateHost,h,SSRFProtection.Resolves]
  cases hallowed : p.isDomainAllowed lib host with
  | false =>
    refine ⟨fun hok => ?_,fun hok => absurd hok.1 (by simp)⟩
    simp only [Bool.not_false,if_true] at hok
    split at hok <;> cases hok
  | true =>
    simp only [Bool.not_true,Bool.false_eq_true,if_false,true_and]
    cases happly : p.applyIPFilterForDomain with
    | false => simp
    | true =>
      simp only [Bool.not_true,Bool.false_eq_true,if_false,forall_const]
      cases hlookup : lib.lookupIP host with
      | error e => simp
      | ok ips => simp [checkResolved_ok_iff]

def SSRFProtection.Reaches (p : SSRFProtection) (lib : Library) (urlStr host : String) : Prop :=
  ∃ u port, lib.parse urlStr=.ok u ∧ (u.scheme = "http" ∨ u.scheme = "https") ∧
    atoi u.hostPort.2=some port ∧ p.isAllowedPort port=true ∧ host=hostname u.host

lemma hostPort_eq_hostname {u : Url} (h : lib.parse urlStr=.ok u) : u.hostPort.1=hostname u.host := by
  unfold Url.hostPort
  split
  next host port hsplit => exact (hostname_of_splitHostPort hsplit (lib.digits_of_parse h hsplit)).symm
  · rfl

lemma validateURL_ok_iff :
    p.validateURL lib urlStr=.ok () ↔ ∃ host, p.Reaches lib urlStr host ∧ p.validateHost lib host=.ok () := by
  unfold validateURL SSRFProtection.Reaches
  cases hparse : lib.parse urlStr with
  | error e => simp
  | ok u =>
    have hhost := hostPort_eq_hostname hparse
    by_cases hsch : u.scheme = "http" ∨ u.scheme = "https"
    · have hnot : ¬ (u.scheme ≠ "http" ∧ u.scheme ≠ "https") := by tauto
      cases hport : atoi u.hostPort.2 with
      | none => simp [hnot,hport]
      | some port =>
        cases hallowed : p.isAllowedPort port with
        | false => simp [hnot,hport,hallowed]
        | true => simp [hnot,hport,hallowed,hsch,hhost]
    · have hnot : u.scheme ≠ "http" ∧ u.scheme ≠ "https" := by tauto
      simp [hnot]
end AronaApi.Fetch
