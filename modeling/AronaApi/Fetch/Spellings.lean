import AronaApi.Fetch.Protection
import Mathlib

/-! Which spellings of a host the check covers. A host is compared with what it stands for: the
address the dialer reads it as, and the name DNS reads it as. The spellings that get through are
classified in `Escapes`. -/
namespace AronaApi.Fetch
open GoStd NetAddr List SSRFProtection Library

/-- The private, loopback, link-local and unspecified addresses, in the form of sixteen bytes: one of
version 4 is written, and also mapped into version 6, as `ipv4 a b c d`. -/
inductive Internal : IP → Prop
  | unspecified4 : Internal (ipv4 0 0 0 0)
  | unspecified6 : Internal ipv6Unspecified
  | loopback4 (b c d : Byte) : Internal (ipv4 127 b c d)
  | loopback6 : Internal ipv6Loopback
  | private10 (b c d : Byte) : Internal (ipv4 10 b c d)
  | private172 (b c d : Byte) (h : 16≤b) (h' : b≤31) : Internal (ipv4 172 b c d)
  | private192 (c d : Byte) : Internal (ipv4 192 168 c d)
  | uniqueLocal (a b : Byte) (rest : IP) (h : a=0xfc ∨ a=0xfd) (hlen : rest.length=14) : Internal (a::b::rest)
  | linkLocal4 (c d : Byte) : Internal (ipv4 169 254 c d)
  | linkLocal6 (b : Byte) (rest : IP) (h : 0x80≤b) (h' : b≤0xbf) (hlen : rest.length=14) : Internal (0xfe::b::rest)
  | linkLocalMulticast4 (d : Byte) : Internal (ipv4 224 0 0 d)
  | linkLocalMulticast6 (b : Byte) (rest : IP) (h : b &&& 0x0f=2) (hlen : rest.length=14) : Internal (0xff::b::rest)

@[simp] lemma to4_ipv4 (a b c d : Byte) : to4 (ipv4 a b c d)=some [a,b,c,d] := by simp [to4,ipv4,v4InV6Prefix]

variable {rest ip : IP}
lemma to4_cons_of_ne {a b : Byte} (ha : a≠0) (hlen : rest.length=14) : to4 (a::b::rest)=none := by
  have htake : a::b::rest.take 10≠v4InV6Prefix := by
    intro h
    exact ha (List.cons.inj h).1
  simp [to4,hlen,htake]

lemma contains_ipv4 {n m x : Byte × Byte × Byte × Byte} (h : n.1 &&& m.1=x.1 &&& m.1 ∧ n.2.1 &&& m.2.1=x.2.1 &&& m.2.1 ∧
      n.2.2.1 &&& m.2.2.1=x.2.2.1 &&& m.2.2.1 ∧ n.2.2.2 &&& m.2.2.2=x.2.2.2 &&& m.2.2.2) :
    Network.contains ⟨ipv4 n.1 n.2.1 n.2.2.1 n.2.2.2,[m.1,m.2.1,m.2.2.1,m.2.2.2]⟩ [x.1,x.2.1,x.2.2.1,x.2.2.2]=true := by
  have hlen : to4 [x.1,x.2.1,x.2.2.1,x.2.2.2]=some [x.1,x.2.1,x.2.2.1,x.2.2.2] := rfl
  simp [Network.contains,numberAndMask,hlen,h]

lemma leads6_cons {test : Byte → Byte → Bool} {a b : Byte} (hlen : rest.length=14)
    (h : test a b=true) : leads6 test (a::b::rest)=true := by simp [leads6,hlen,h]

lemma isPrivateIP_of_special
    (h : isUnspecified ip=true ∨ isLoopback ip=true ∨ isLinkLocalUnicast ip=true ∨ isLinkLocalMulticast ip=true) :
    isPrivateIP ip=true := by
  unfold isPrivateIP
  split
  · rfl
  split
  · rfl
  next hunsp =>
  split
  · rfl
  next hlcl =>
  simp only [Bool.or_eq_true] at hlcl
  tauto

lemma isPrivateIP_of_net {a b c d : Byte} (net : Network) (hnet : net∈privateIPv4Nets)
    (h : net.contains [a,b,c,d]=true) : isPrivateIP (ipv4 a b c d)=true := by
  have hany : privateIPv4Nets.any (·.contains [a,b,c,d])=true := any_eq_true.mpr ⟨net,hnet,h⟩
  simp [isPrivateIP,hany]

lemma isPrivateIP_of_isPrivate (h4 : to4 ip=none) (h : isPrivate ip=true) :
    isPrivateIP ip=true := by simp [isPrivateIP,h4,h]

lemma isPrivateIP_of_internal (h : Internal ip) : isPrivateIP ip=true := by
  cases h with
  | unspecified4 | unspecified6 | loopback6 => decide
  | loopback4 b c d => exact isPrivateIP_of_special (.inr (.inl (by simp [isLoopback])))
  | private10 b c d =>
    apply isPrivateIP_of_net ⟨ipv4 10 0 0 0,cidrMask 8 32⟩ (by decide)
    exact contains_ipv4 (n := (10,0,0,0)) (m := (255,0,0,0)) (x := (10,b,c,d)) (by simp)
  | private172 b c d hlow hhigh =>
    have hand : 16 &&& 240=b &&& 240 := by
      revert b
      decide
    apply isPrivateIP_of_net ⟨ipv4 172 16 0 0,cidrMask 12 32⟩ (by decide)
    exact contains_ipv4 (n := (172,16,0,0)) (m := (255,240,0,0)) (x := (172,b,c,d)) ⟨rfl,hand,by simp⟩
  | private192 c d =>
    apply isPrivateIP_of_net ⟨ipv4 192 168 0 0,cidrMask 16 32⟩ (by decide)
    exact contains_ipv4 (n := (192,168,0,0)) (m := (255,255,0,0)) (x := (192,168,c,d)) (by simp)
  | uniqueLocal a b rest ha hlen =>
    have hne : a≠0 := by
      rintro rfl
      revert ha
      decide
    have h4 := to4_cons_of_ne (b := b) hne hlen
    have hand : a &&& 0xfe=0xfc := by rcases ha with rfl | rfl <;> rfl
    apply isPrivateIP_of_isPrivate h4
    rw [isPrivate,h4]
    exact leads6_cons hlen (beq_iff_eq.mpr hand)
  | linkLocal4 c d => exact isPrivateIP_of_special (.inr (.inr (.inl (by simp [isLinkLocalUnicast]))))
  | linkLocal6 b rest hlow hhigh hlen =>
    have hand : b &&& 0xc0=0x80 := by
      revert b
      decide
    apply isPrivateIP_of_special
    refine .inr (.inr (.inl ?_))
    rw [isLinkLocalUnicast,to4_cons_of_ne (by decide) hlen]
    exact leads6_cons hlen (by simp only [hand]; decide)
  | linkLocalMulticast4 d => exact isPrivateIP_of_special (.inr (.inr (.inr (by simp [isLinkLocalMulticast]))))
  | linkLocalMulticast6 b rest hand hlen =>
    apply isPrivateIP_of_special
    refine .inr (.inr (.inr ?_))
    rw [isLinkLocalMulticast,to4_cons_of_ne (by decide) hlen]
    exact leads6_cons hlen (by simp only [hand]; decide)

def Dotted (s : String) : Prop := s.toList.getLast? = some '.'

def dnsName (s : String) : List Char :=
  (if s.toList.getLast? = some '.' then s.toList.dropLast else s.toList).map Char.toLower

/-- An entry of the list of domains stands for the names equal to it and, as a wildcard, for those
below it. -/
def Names (item host : String) : Prop :=
  trimSpace item ≠ "" ∧ (dnsName host=dnsName (trimSpace item) ∨
    ∃ suffix, trimSpace item = "*."++suffix ∧ ('.'::dnsName suffix) <:+ dnsName host)

variable {lib : Library} {suffix host item : String}
lemma toLower_cases (c : Char) : c.toLower=c ∨ (c.val<128 ∧ c.toLower.val<128 ∧ c.toLower.toLower=c.toLower) := by
  by_cases h : c.val ≥ 'A'.val ∧ c.val ≤ 'Z'.val
  · have hlow : 65 ≤ c.val.toNat := h.1
    have hhigh : c.val.toNat≤90 := h.2
    have hval : c.toLower.val.toNat=c.val.toNat+32 := by
      rw [Char.toLower,dif_pos h]
      show (c.val.toNat+32)%2^32=_
      omega
    have hlwr : ¬ (c.toLower.val ≥ 'A'.val ∧ c.toLower.val ≤ 'Z'.val) := by
      rintro ⟨-,hle⟩
      have hle' : c.toLower.val.toNat≤90 := hle
      omega
    refine .inr ⟨?_,?_,?_⟩
    · show c.val.toNat<128
      omega
    · show c.toLower.val.toNat<128
      omega
    · exact (Char.toLower.eq_1 c.toLower).trans (dif_neg hlwr)
  · exact .inl ((Char.toLower.eq_1 c).trans (dif_neg h))

lemma Library.toLower_toLower (lib : Library) (c : Char) : lib.toLower c.toLower=lib.toLower c := by
  rcases toLower_cases c with hc | ⟨hc,hlwr,hidem⟩
  · rw [hc]
  · rw [lib.toLower_ascii c hc,lib.toLower_ascii _ hlwr,hidem]

lemma map_toLower_eq (s : String) :
    s.toList.map Char.toLower=if s.toList.getLast? = some '.' then dnsName s++['.'] else dnsName s := by
  unfold dnsName
  split
  next h =>
    obtain ⟨init,hinit⟩ := List.getLast?_eq_some_iff.mp h
    rw [hinit]
    simp
  · rfl

lemma toList_lower (s : String) : (lib.lower s).toList=(s.toList.map Char.toLower).map lib.toLower := by
  rw [lower,String.toList_ofList,map_map]
  exact map_congr_left fun c _ => (lib.toLower_toLower c).symm

lemma lower_eq_of_dnsName {s t : String} (h : dnsName s=dnsName t) (hdots : Dotted s ↔ Dotted t) :
    lib.lower s=lib.lower t := by
  apply String.toList_inj.mp
  rw [toList_lower,toList_lower,map_toLower_eq,map_toLower_eq,h]
  unfold Dotted at hdots
  by_cases ht : t.toList.getLast? = some '.'
  · rw [if_pos ht,if_pos (hdots.mpr ht)]
  · rw [if_neg ht,if_neg (mt hdots.mp ht)]

lemma dotted_wildcard : Dotted ("*."++suffix) ↔ suffix.toList=[] ∨ Dotted suffix := by
  unfold Dotted
  rw [String.toList_append]
  cases hsuffix : suffix.toList with
  | nil => simp
  | cons c cs => simp [List.getLast?_cons]

lemma suffix_of_below (h : ('.'::dnsName suffix) <:+ dnsName host) (hdots : Dotted host ↔ Dotted ("*."++suffix)) :
    ('.'::suffix.toList.map Char.toLower) <:+ host.toList.map Char.toLower := by
  rw [dotted_wildcard] at hdots
  obtain ⟨front,hfrn⟩ := h
  rw [map_toLower_eq host,← hfrn]
  unfold Dotted at hdots
  by_cases hhost : host.toList.getLast? = some '.'
  · rw [if_pos hhost]
    rcases hdots.mp hhost with hroot | hsuff
    · rw [hroot]
      exact suffix_append _ _
    · rw [map_toLower_eq suffix,if_pos hsuff]
      exact ⟨front,by simp⟩
  · have hsuff := mt (fun hs => hdots.mpr (.inr hs)) hhost
    rw [if_neg hhost,map_toLower_eq suffix,if_neg hsuff]
    exact suffix_append _ _

lemma lower_wildcard (suffix : String) : lib.lower ("*."++suffix) = "*."++lib.lower suffix := by
  have hstar : lib.toLower '*' = '*' := lib.toLower_ascii '*' (by decide)
  have hdot : lib.toLower '.' = '.' := lib.toLower_ascii '.' (by decide)
  apply String.toList_inj.mp
  simp [lower,hstar,hdot]

lemma trimPrefix_wildcard (suffix : String) : trimPrefix ("*."++suffix) "*." = suffix := by
  apply String.toList_inj.mp
  simp [trimPrefix,hasPrefix]

lemma hasPrefix_wildcard (suffix : String) : hasPrefix ("*."++suffix) "*." = true := by simp [hasPrefix]

lemma isDomainListed_of_names {list : List String} (hitem : item∈list)
    (h : Names item host) (hdots : Dotted host ↔ Dotted (trimSpace item)) : isDomainListed lib host list=true := by
  apply any_eq_true.mpr
  refine ⟨item,hitem,?_⟩
  obtain ⟨hne,heql | ⟨suffix,hitem,hblw⟩⟩ := h
  · have hlwr : lib.lower (trimSpace item) ≠ "" := by
      intro hemp
      apply hne
      apply String.toList_inj.mp
      have hlist := congrArg String.toList hemp
      rw [lower,String.toList_ofList] at hlist
      exact map_eq_nil_iff.mp hlist
    simp [entryMatches,hlwr,lower_eq_of_dnsName heql hdots]
  · rw [hitem] at hdots ⊢
    have hdot : lib.toLower '.' = '.' := lib.toLower_ascii '.' (by decide)
    have hsuff : hasSuffix (lib.lower host) ("."++lib.lower suffix)=true := by
      apply isSuffixOf_iff_suffix.mpr
      have hmap := (suffix_of_below hblw hdots).map lib.toLower
      rw [map_cons,hdot,← toList_lower,← toList_lower] at hmap
      simpa using hmap
    have hlwr : "*."++lib.lower suffix ≠ "" := by simp
    simp [lower_wildcard,entryMatches,hlwr,hasPrefix_wildcard,trimPrefix_wildcard,hsuff]

structure Covered (p : SSRFProtection) (host : String) : Prop where
  address : ∀ a, parseAddr host=some a → ¬ Internal a.as16
  name : p.domainFilterMode=false → ∀ item∈p.domainList, ¬ Names item host

/-- The hosts that are accepted although they stand for something that is to be kept out. -/
inductive Escapes (p : SSRFProtection) (lib : Library) (host : String) : Prop
  /-- the zone hides the address from `net.ParseIP`, and nothing resolves the host -/
  | zone (a : Addr) (ha : parseAddr host=some a) (hzone : a.zone ≠ "") (hinternal : Internal a.as16)
      (hdomain : p.isDomainAllowed lib host=true) (hfilter : p.applyIPFilterForDomain=false)
  /-- the host ends in a dot and the entry does not, or the other way round -/
  | dot (item : String) (hmode : p.domainFilterMode=false) (hip : parseIP host=none)
      (hlisted : isDomainListed lib host p.domainList=false) (hitem : item∈p.domainList)
      (hnames : Names item host) (hdots : ¬ (Dotted host ↔ Dotted (trimSpace item))) (hresolves : p.Resolves lib host)
  /-- an address is not looked up in the list of domains -/
  | address (item : String) (ip : IP) (hmode : p.domainFilterMode=false) (hip : parseIP host=some ip)
      (hallowed : p.isIPAccessAllowed ip=true) (hitem : item∈p.domainList) (hnames : Names item host)

variable {p : SSRFProtection} {host : String} {a : Addr}
lemma parseIP_of_zone (ha : parseAddr host=some a) (hzone : a.zone ≠ "") : parseIP host=none := by
  simp [parseIP,ha,hzone]

lemma parseIP_of_noZone (ha : parseAddr host=some a) (hzone : a.zone = "") :
    parseIP host=some a.as16 := by simp [parseIP,ha,hzone]

lemma not_isIPAccessAllowed_of_internal (hpriv : p.allowPrivateIp=false) (h : Internal ip) :
    p.isIPAccessAllowed ip=false := by simp [isIPAccessAllowed,hpriv,isPrivateIP_of_internal h]

lemma Escapes.accepted (h : Escapes p lib host) : p.validateHost lib host=.ok () := by
  cases h with
  | zone a ha hzone hinternal hdomain hfilter =>
    rw [validateHost_domain_iff (parseIP_of_zone ha hzone)]
    refine ⟨hdomain,?_⟩
    intro hapl
    rw [hfilter] at hapl
    cases hapl
  | dot item hmode hip hlisted hitem hnames hdots hresolves =>
    rw [validateHost_domain_iff hip]
    exact ⟨by simp [isDomainAllowed,hmode,hlisted],hresolves⟩
  | address item ip hmode hip hallowed hitem hnames => exact (validateHost_address_iff hip).mpr hallowed

lemma Escapes.not_covered (h : Escapes p lib host) : ¬ Covered p host := by
  intro hcov
  cases h with
  | zone a ha hzone hinternal hdomain hfilter => exact hcov.address a ha hinternal
  | dot item hmode hip hlisted hitem hnames hdots hresolves => exact hcov.name hmode item hitem hnames
  | address item ip hmode hip hallowed hitem hnames => exact hcov.name hmode item hitem hnames

lemma escapes_of_internal (hpriv : p.allowPrivateIp=false) (hok : p.validateHost lib host=.ok ())
    (ha : parseAddr host=some a) (hinternal : Internal a.as16) : Escapes p lib host := by
  have href : p.isIPAccessAllowed a.as16=false := not_isIPAccessAllowed_of_internal hpriv hinternal
  by_cases hzone : a.zone = ""
  · rw [validateHost_address_iff (parseIP_of_noZone ha hzone),href] at hok
    cases hok
  rw [validateHost_domain_iff (parseIP_of_zone ha hzone)] at hok
  refine .zone a ha hzone hinternal hok.1 ?_
  by_contra hfilter
  -- the resolver returns the address itself, which is refused
  obtain ⟨ips,hlook,hips⟩ := hok.2 (Bool.not_eq_false _ ▸ hfilter)
  have hself : lib.lookupIP host=.ok [a.as16] := by simp [lookupIP,ha]
  rw [hself] at hlook
  cases hlook
  have hallowed := hips a.as16 (mem_singleton_self _)
  rw [href] at hallowed
  cases hallowed

lemma escapes_of_names (hok : p.validateHost lib host=.ok ()) (hmode : p.domainFilterMode=false)
    (hitem : item∈p.domainList) (hnames : Names item host) : Escapes p lib host := by
  cases hip : parseIP host with
  | some ip => exact .address item ip hmode hip ((validateHost_address_iff hip).mp hok) hitem hnames
  | none =>
    rw [validateHost_domain_iff hip] at hok
    have hlisted : isDomainListed lib host p.domainList=false := by simpa [isDomainAllowed,hmode] using hok.1
    refine .dot item hmode hip hlisted hitem hnames ?_ hok.2
    intro hdots
    have htrue : isDomainListed lib host p.domainList=true := isDomainListed_of_names hitem hnames hdots
    rw [hlisted] at htrue
    cases htrue

/-- With private addresses kept out, what an accepted URL names is covered exactly when its host is
none of those that escape. -/
theorem accepted_covered_iff (p : SSRFProtection) (lib : Library) (urlStr : String)
    (hprivate : p.allowPrivateIp=false) :
    (p.validateURL lib urlStr=.ok () → ∀ u, lib.parse urlStr=.ok u → Covered p (hostname u.host)) ↔
      ∀ host, p.Reaches lib urlStr host → ¬ Escapes p lib host := by
  constructor
  · intro hcov host hreac hesc
    have hok := validateURL_ok_iff.mpr ⟨host,hreac,hesc.accepted⟩
    obtain ⟨u,port,hprs,-,-,-,rfl⟩ := hreac
    exact hesc.not_covered (hcov hok u hprs)
  · intro hnone hok u hprs
    obtain ⟨host,hreac,hhost⟩ := validateURL_ok_iff.mp hok
    have hnot := hnone host hreac
    obtain ⟨u',port,hprs',-,-,-,rfl⟩ := hreac
    rw [hprs] at hprs'
    cases hprs'
    refine ⟨fun a ha hinternal => hnot (escapes_of_internal hprivate hhost ha hinternal),?_⟩
    intro hmode item hitem hnames
    exact hnot (escapes_of_names hhost hmode hitem hnames)

def oneDomain : SSRFProtection :=
  { allowPrivateIp := false,domainFilterMode := false,domainList := ["example.com"],ipFilterMode := false }

/-- What `url.Parse` makes of three URLs. -/
def parseThree (urlStr : String) : Except String Url :=
  if urlStr = "https://example.org/" then .ok ⟨"https","example.org"⟩
  else if urlStr = "https://example.com./" then .ok ⟨"https","example.com."⟩
  else if urlStr = "http://[::1%25lo]/" then .ok ⟨"http","[::1%lo]"⟩
  else .error "parse: not one of the three"

lemma splitHostPort_parseThree {urlStr : String} {u : Url} (h : parseThree urlStr=.ok u) :
    splitHostPort u.host=none := by
  unfold parseThree at h
  split at h
  · cases h
    decide
  split at h
  · cases h
    decide
  split at h
  · cases h
    decide
  · cases h

def threeUrls : Library where
  parse := parseThree
  digits_of_parse h hsplit := by
    rw [splitHostPort_parseThree h] at hsplit
    cases hsplit
  toLower := Char.toLower
  toLower_ascii _ _ := rfl
  ipString _ := ""
  resolve _ := .error "no such host"

lemma not_names_org : ¬ Names "example.com" "example.org" := by
  rintro ⟨-,heql | ⟨suffix,hwild,-⟩⟩
  · revert heql
    decide
  · have hhead : (trimSpace "example.com").toList.head? = some '*' := by
      rw [hwild,String.toList_append]
      rfl
    revert hhead
    decide

theorem org_covered :
    oneDomain.allowPrivateIp=false ∧ oneDomain.validateURL threeUrls "https://example.org/" = .ok () ∧
      Covered oneDomain "example.org" := by
  have hok : oneDomain.validateURL threeUrls "https://example.org/" = .ok () := by decide +kernel
  have horg : threeUrls.parse "https://example.org/" = .ok ⟨"https","example.org"⟩ := by
    show parseThree "https://example.org/" = _
    rw [parseThree,if_pos rfl]
  have hname : hostname "example.org" = "example.org" := by decide
  refine ⟨rfl,hok,hname ▸ (accepted_covered_iff oneDomain threeUrls _ rfl).mpr ?_ hok _ horg⟩
  rintro host ⟨u,port,hprs,-,-,-,rfl⟩ hesc
  rw [horg] at hprs
  cases hprs
  have hnotN (item : String) (hitem : item∈oneDomain.domainList) : ¬ Names item (hostname "example.org") := by
    rw [mem_singleton.mp hitem,hname]
    exact not_names_org
  cases hesc with
  | zone a ha hzone hinternal hdomain hfilter =>
    have hnone : parseAddr (hostname "example.org")=none := by decide +kernel
    rw [hnone] at ha
    cases ha
  | dot item hmode hip hlisted hitem hnames hdots hresolves => exact hnotN item hitem hnames
  | address item ip hmode hip hallowed hitem hnames => exact hnotN item hitem hnames

/-- The loopback address with a zone is accepted, and so is the listed domain with a dot. -/
theorem spellings_accepted :
    (oneDomain.validateURL threeUrls "http://[::1%25lo]/" = .ok () ∧
      ∃ a, parseAddr (hostname "[::1%lo]")=some a ∧ Internal a.as16) ∧
    oneDomain.validateURL threeUrls "https://example.com./" = .ok () ∧ Names "example.com" (hostname "example.com.") := by
  refine ⟨⟨by decide +kernel,.v6 ⟨ipv6Loopback,rfl⟩ "lo",by decide +kernel,.loopback6⟩,by decide +kernel,?_⟩
  exact ⟨by decide,.inl (by decide)⟩
end AronaApi.Fetch
