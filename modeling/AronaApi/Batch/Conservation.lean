import AronaApi.Lib.GoMap
import AronaApi.Lib.GoStd
import AronaApi.Lib.Interleave
import AronaApi.Lib.Sums

/-! Batched counters (`model/utils.go`). The calls that change a counter add what they change to one of
five maps, each under its own lock, and `batchUpdate` now and then swaps the maps for empty ones, one
after another, and writes what it has taken to the database. A section under a lock and an `UPDATE` are
single steps; anything may happen between them. All writes succeed.

No change of a counter is lost or counted twice on its way through the stores. A change is in a
store, then in what one `batchUpdate` has taken and not yet written, then in the database, and every
step only moves amounts along this way. An addition that overflows loses a multiple of `2^64`. -/
namespace AronaApi.Batch
open GoStd Function

section
inductive BatchUpdateType
  | userQuota
  | tokenQuota
  | usedQuota
  | channelUsedQuota
  | requestCount
  deriving DecidableEq

/-- In the order of `i := 0; i < BatchUpdateTypeCount; i++`. -/
def BatchUpdateType.all : List BatchUpdateType := [.userQuota,.tokenQuota,.usedQuota,.channelUsedQuota,.requestCount]

structure UserRow where
  quota : ℤ
  usedQuota : ℤ
  requestCount : ℤ
  deriving DecidableEq

structure TokenRow where
  remainQuota : ℤ
  usedQuota : ℤ
  accessedTime : ℤ
  deriving DecidableEq

structure ChannelRow where
  usedQuota : ℤ

structure Database where
  users : ℕ → Option UserRow
  tokens : ℕ → Option TokenRow
  channels : ℕ → Option ChannelRow

/-- `UPDATE … WHERE id = ?`: a row that is not there stays so. -/
def updateRow {R : Type*} (rows : ℕ → Option R) (id : ℕ) (f : R → R) : ℕ → Option R :=
  update rows id ((rows id).map f)

def increaseUserQuota (id : ℕ) (quota : ℤ) (db : Database) : Database :=
  { db with users := updateRow db.users id fun u => { u with quota := u.quota+quota } }

def decreaseUserQuota (id : ℕ) (quota : ℤ) (db : Database) : Database :=
  { db with users := updateRow db.users id fun u => { u with quota := u.quota-quota } }

def updateUserUsedQuotaAndRequestCount (id : ℕ) (quota count : ℤ) (db : Database) : Database :=
  { db with users := updateRow db.users id fun u =>
      { u with usedQuota := u.usedQuota+quota,requestCount := u.requestCount+count } }

def updateUserQuotaUsedQuotaAndRequestCount (id : ℕ) (quota usedQuota requestCount : ℤ) (db : Database) : Database :=
  if quota=0 ∧ usedQuota=0 ∧ requestCount=0 then db
  else { db with users := updateRow db.users id fun u =>
      ⟨u.quota+quota,u.usedQuota+usedQuota,u.requestCount+requestCount⟩ }

def increaseTokenQuota (now : ℤ) (id : ℕ) (quota : ℤ) (db : Database) : Database :=
  { db with tokens := updateRow db.tokens id fun t => ⟨t.remainQuota+quota,t.usedQuota-quota,now⟩ }

def decreaseTokenQuota (now : ℤ) (id : ℕ) (quota : ℤ) (db : Database) : Database :=
  { db with tokens := updateRow db.tokens id fun t => ⟨t.remainQuota-quota,t.usedQuota+quota,now⟩ }

def updateChannelUsedQuota (id : ℕ) (quota : ℤ) (db : Database) : Database :=
  { db with channels := updateRow db.channels id fun c => ⟨c.usedQuota+quota⟩ }

/-- `batchUpdateStores`, and maps taken out of it. -/
abbrev Stores := BatchUpdateType → GoMap ℕ ℤ

def addNewRecord (type : BatchUpdateType) (id : ℕ) (value : ℤ) (stores : Stores) : Stores :=
  update stores type
    (if id∉(stores type).keys then (stores type).set id value
      else (stores type).set id (wrap64 ((stores type).get id+value)))

inductive Call
  | increaseUserQuota (id : ℕ) (quota : ℤ) (db : Bool)
  | decreaseUserQuota (id : ℕ) (quota : ℤ) (db : Bool)
  | increaseTokenQuota (tokenId : ℕ) (quota : ℤ)
  | decreaseTokenQuota (id : ℕ) (quota : ℤ)
  | updateUserUsedQuotaAndRequestCount (id : ℕ) (quota : ℤ)
  | updateChannelUsedQuota (id : ℕ) (quota : ℤ)

inductive Phase
  | idle
  /-- `UpdateUserUsedQuotaAndRequestCount` between its two records -/
  | counting
  /-- looking for data in the stores that are left -/
  | checking (left : List BatchUpdateType)
  /-- swapping the stores that are left, with those taken so far -/
  | swapping (left : List BatchUpdateType) (stores : Stores)
  /-- writing tokens -/
  | tokens (left : GoMap ℕ ℤ) (stores : Stores)
  /-- writing channels -/
  | channels (left : GoMap ℕ ℤ) (stores : Stores)
  /-- writing users -/
  | users (left : Finset ℕ) (stores : Stores)
  | done (error : Option String)

structure Record where
  type : BatchUpdateType
  id : ℕ
  delta : ℤ

/-- A step of a call: it returns an error, adds a record, or writes to the database and returns. -/
inductive Op
  | fail (error : String)
  | add (r : Record) (p : Phase)
  | write (f : Database → Database) (records : List Record)

section
variable (batchUpdateEnabled : Bool) (now : ℤ)
def Call.stmt : Call → Phase → Option Op
  | .increaseUserQuota id quota db,.idle =>
    some (if quota<0 then .fail "quota 不能为负数！"
      else if !db && batchUpdateEnabled then .add ⟨.userQuota,id,quota⟩ (.done none)
      else .write (Batch.increaseUserQuota id quota) [⟨.userQuota,id,quota⟩])
  | .decreaseUserQuota id quota db,.idle =>
    some (if quota<0 then .fail "quota 不能为负数！"
      else if !db && batchUpdateEnabled then .add ⟨.userQuota,id,-quota⟩ (.done none)
      else .write (Batch.decreaseUserQuota id quota) [⟨.userQuota,id,-quota⟩])
  | .increaseTokenQuota tokenId quota,.idle =>
    some (if quota<0 then .fail "quota 不能为负数！"
      else if batchUpdateEnabled then .add ⟨.tokenQuota,tokenId,quota⟩ (.done none)
      else .write (Batch.increaseTokenQuota now tokenId quota) [⟨.tokenQuota,tokenId,quota⟩])
  | .decreaseTokenQuota id quota,.idle =>
    some (if quota<0 then .fail "quota 不能为负数！"
      else if batchUpdateEnabled then .add ⟨.tokenQuota,id,-quota⟩ (.done none)
      else .write (Batch.decreaseTokenQuota now id quota) [⟨.tokenQuota,id,-quota⟩])
  | .updateUserUsedQuotaAndRequestCount id quota,.idle =>
    some (if batchUpdateEnabled then .add ⟨.usedQuota,id,quota⟩ .counting
      else .write (Batch.updateUserUsedQuotaAndRequestCount id quota 1) [⟨.usedQuota,id,quota⟩,⟨.requestCount,id,1⟩])
  | .updateUserUsedQuotaAndRequestCount id _,.counting => some (.add ⟨.requestCount,id,1⟩ (.done none))
  | .updateChannelUsedQuota id quota,.idle =>
    some (if batchUpdateEnabled then .add ⟨.channelUsedQuota,id,quota⟩ (.done none)
      else .write (Batch.updateChannelUsedQuota id quota) [⟨.channelUsedQuota,id,quota⟩])
  | _,_ => none
end

structure Shared where
  stores : Stores
  db : Database

def perform (s : Shared) : Op → Shared × Phase × List Record
  | .fail error => (s,.done (some error),[])
  | .add r p => ({ s with stores := addNewRecord r.type r.id r.delta s.stores },p,[r])
  | .write f records => ({ s with db := f s.db },.done none,records)

/-- One step of `batchUpdate`; a loop over a map visits any `key` it has left. -/
def batchUpdate (s : Shared) (now : ℤ) (key : ℕ) : Phase → Option (Shared × Phase)
  | .idle => some (s,.checking BatchUpdateType.all)
  | .checking [] => some (s,.done none)
  | .checking (type::left) =>
    some (s,if (s.stores type).keys = ∅ then .checking left else .swapping BatchUpdateType.all fun _ => .empty)
  | .swapping (type::left) stores =>
    some ({ s with stores := update s.stores type .empty },.swapping left (update stores type (s.stores type)))
  | .swapping [] stores => some (s,.tokens (stores .tokenQuota) stores)
  | .tokens left stores =>
    if left.keys = ∅ then some (s,.channels (stores .channelUsedQuota) stores)
    else if key∈left.keys then
      some ({ s with db := increaseTokenQuota now key (left.get key) s.db },.tokens (left.erase key) stores)
    else none
  | .channels left stores =>
    if left.keys = ∅ then
      some (s,.users ((stores .userQuota).keys ∪ (stores .usedQuota).keys ∪ (stores .requestCount).keys) stores)
    else if key∈left.keys then
      some ({ s with db := updateChannelUsedQuota key (left.get key) s.db },.channels (left.erase key) stores)
    else none
  | .users left stores =>
    if left = ∅ then some (s,.done none)
    else if key∈left then
      some ({ s with
        db := updateUserQuotaUsedQuotaAndRequestCount key ((stores .userQuota).get key) ((stores .usedQuota).get key)
          ((stores .requestCount).get key) s.db },.users (left.erase key) stores)
    else none
  | .counting | .done _ => none

inductive Job
  | call (c : Call)
  | batchUpdate

structure Act where
  now : ℤ
  key : ℕ

def next (batchUpdateEnabled : Bool) (job : Job) (s : Shared) (p : Phase) (a : Act) :
    Option (Shared × Phase × List Record) :=
  match job with
  | .call c => (c.stmt batchUpdateEnabled a.now p).map (perform s)
  | .batchUpdate => (batchUpdate s a.now a.key p).map fun r => (r.1,r.2,[])

variable {W : Type*} [DecidableEq W]
abbrev Sys (W : Type*) := Interleave W Shared Phase Record

def step (batchUpdateEnabled : Bool) (jobs : W → Job) : Sys W → W × Act → Option (Sys W) :=
  Interleave.step fun w => next batchUpdateEnabled (jobs w)

def start (db : Database) : Sys W := Interleave.start ⟨fun _ => .empty,db⟩ .idle
end

open Schedule Interleave List Phase GoMap UserRow

inductive Counter
  | userQuota
  | userUsedQuota
  | requestCount
  | remainQuota
  | tokenUsedQuota
  | channelUsedQuota

open Counter

namespace Counter

def type : Counter → BatchUpdateType
  | userQuota => .userQuota
  | userUsedQuota => .usedQuota
  | requestCount => .requestCount
  | remainQuota | tokenUsedQuota => .tokenQuota
  | channelUsedQuota => .channelUsedQuota

def sign : Counter → ℤ
  | tokenUsedQuota => -1
  | _ => 1
end Counter

def Database.value (db : Database) : Counter → ℕ → Option ℤ
  | .userQuota,id => (db.users id).map quota
  | .userUsedQuota,id => (db.users id).map usedQuota
  | .requestCount,id => (db.users id).map requestCount
  | .remainQuota,id => (db.tokens id).map TokenRow.remainQuota
  | .tokenUsedQuota,id => (db.tokens id).map TokenRow.usedQuota
  | .channelUsedQuota,id => (db.channels id).map ChannelRow.usedQuota

def recorded (type : BatchUpdateType) (id : ℕ) (records : List Record) : ℤ :=
  (records.map fun r => if r.type=type ∧ r.id=id then r.delta else 0).sum

section
variable (type : BatchUpdateType) (id : ℕ)
@[simp] lemma recorded_nil : recorded type id []=0 := rfl

@[simp] lemma recorded_cons (r : Record) (rs : List Record) :
    recorded type id (r::rs)=(if r.type=type ∧ r.id=id then r.delta else 0)+recorded type id rs := by simp [recorded]

lemma recorded_append (rs rs' : List Record) : recorded type id (rs++rs')=recorded type id rs+recorded type id rs' := by
  simp [recorded]
end

variable {db db' : Database} {quota : ℤ}
/-- The counters of `db'` are those of `db` with the changes added. -/
def Applies (records : List Record) (db db' : Database) : Prop :=
  ∀ c id, db'.value c id=(db.value c id).map (·+c.sign*recorded c.type id records)

lemma applies_nil (db : Database) : Applies [] db db := by
  intro c id
  simp

lemma updateRow_apply {R : Type*} (rows : ℕ → Option R) (id : ℕ) (f : R → R) (j : ℕ) :
    updateRow rows id f j=(rows j).map fun r => if j=id then f r else r := by
  unfold updateRow
  rw [update_apply]
  split
  next h => rw [h]
  · simp

lemma applies_users {f : UserRow → UserRow} (id : ℕ) (quota usedQuota requestCount : ℤ)
    (hf : ∀ u, f u=⟨u.quota+quota,u.usedQuota+usedQuota,u.requestCount+requestCount⟩) :
    Applies [⟨.userQuota,id,quota⟩,⟨.usedQuota,id,usedQuota⟩,⟨.requestCount,id,requestCount⟩] db
      { db with users := updateRow db.users id f } := by
  intro c j
  by_cases hj : j=id
  · subst hj
    cases c <;> simp [Database.value,updateRow_apply,Counter.type,sign,comp_def,hf]
  · cases c <;> simp [Database.value,updateRow_apply,Counter.type,sign,comp_def,hj,Ne.symm hj]

lemma applies_tokens {f : TokenRow → TokenRow} (id : ℕ)
    (hf : ∀ t, (f t).remainQuota=t.remainQuota+quota ∧ (f t).usedQuota=t.usedQuota-quota) :
    Applies [⟨.tokenQuota,id,quota⟩] db { db with tokens := updateRow db.tokens id f } := by
  intro c j
  by_cases hj : j=id
  · subst hj
    cases c <;> simp [Database.value,updateRow_apply,Counter.type,sign,comp_def,hf,sub_eq_add_neg]
  · cases c <;> simp [Database.value,updateRow_apply,Counter.type,sign,comp_def,hj,Ne.symm hj]

lemma applies_updateChannelUsedQuota (id : ℕ) (quota : ℤ) :
    Applies [⟨.channelUsedQuota,id,quota⟩] db (updateChannelUsedQuota id quota db) := by
  intro c j
  by_cases hj : j=id
  · subst hj
    cases c <;> simp [updateChannelUsedQuota,Database.value,updateRow_apply,Counter.type,sign,comp_def]
  · cases c <;>
      simp [updateChannelUsedQuota,Database.value,updateRow_apply,Counter.type,sign,comp_def,hj,Ne.symm hj]

variable {rs rs' : List Record}
lemma Applies.congr (h : Applies rs db db') (hrs : ∀ type id, recorded type id rs=recorded type id rs') :
    Applies rs' db db' := by
  intro c id
  rw [h c id,hrs]

lemma applies_updateUserQuotaUsedQuotaAndRequestCount (id : ℕ) (quota usedQuota requestCount : ℤ) :
    Applies [⟨.userQuota,id,quota⟩,⟨.usedQuota,id,usedQuota⟩,⟨.requestCount,id,requestCount⟩] db
      (updateUserQuotaUsedQuotaAndRequestCount id quota usedQuota requestCount db) := by
  unfold updateUserQuotaUsedQuotaAndRequestCount
  split
  next hzero =>
    obtain ⟨rfl,rfl,rfl⟩ := hzero
    exact (applies_nil db).congr fun type j => by simp
  · exact applies_users id quota usedQuota requestCount fun _ => rfl

lemma Applies.trans {db'' : Database} (h : Applies rs db db') (h' : Applies rs' db' db'') :
    Applies (rs++rs') db db'' := by
  intro c id
  rw [h' c id,h c id,Option.map_map,recorded_append]
  congr 1
  funext v
  simp only [comp_apply]
  ring

/-- What a `batchUpdate` has taken out of a store for an id and not yet written. -/
def Phase.held : Phase → BatchUpdateType → ℕ → ℤ
  | .swapping _ stores,type,id => (stores type).get id
  | .tokens left _,.tokenQuota,id => left.get id
  | .tokens _ stores,type,id => (stores type).get id
  | .channels _ _,.tokenQuota,_ => 0
  | .channels left _,.channelUsedQuota,id => left.get id
  | .channels _ stores,type,id => (stores type).get id
  | .users _ _,.tokenQuota,_ | .users _ _,.channelUsedQuota,_ => 0
  | .users left stores,type,id => if id∈left then (stores type).get id else 0
  | _,_,_ => 0

def Phase.Sound : Phase → Prop
  | .swapping left stores => left.Nodup ∧ ∀ type∈left, ∀ id, (stores type).get id=0
  | _ => True

/-- The addition in the store stays in the range of an `int`. -/
def Record.Fits (r : Record) (stores : Stores) : Prop :=
  r.id∈(stores r.type).keys → -2^63≤(stores r.type).get r.id+r.delta ∧ (stores r.type).get r.id+r.delta<2^63

def Op.Fits (stores : Stores) : Op → Prop
  | .add r _ => r.Fits stores
  | _ => True

lemma get_addNewRecord (r : Record) (stores : Stores) (type : BatchUpdateType) (id : ℕ) :
    ∃ k : ℤ, (addNewRecord r.type r.id r.delta stores type).get id=(stores type).get id+recorded type id [r]+k*2^64 ∧
      (r.Fits stores → k=0) := by
  by_cases hr : r.type=type ∧ r.id=id
  · obtain ⟨rfl,rfl⟩ := hr
    by_cases hkey : r.id∈(stores r.type).keys
    · obtain ⟨k,hk⟩ := exists_wrap64_eq ((stores r.type).get r.id+r.delta)
      refine ⟨k,by simp [addNewRecord,hkey,get_set,hk],fun hfits => ?_⟩
      have hwrap := wrap64_of_bounds (hfits hkey).1 (hfits hkey).2
      omega
    · refine ⟨0,?_,fun _ => rfl⟩
      simp [addNewRecord,hkey,get_set,(stores r.type).get_of_not_mem r.id hkey]
  · refine ⟨0,?_,fun _ => rfl⟩
    have hsum : recorded type id [r]=0 := by simp [hr]
    have hsame : (addNewRecord r.type r.id r.delta stores type).get id=(stores type).get id := by
      unfold addNewRecord
      rw [update_apply]
      split
      next htype =>
        have hid : id≠r.id := fun hid => hr ⟨htype.symm,hid.symm⟩
        split <;> rw [get_set,if_neg hid,htype]
      · rfl
    rw [hsame,hsum]
    omega

/-- What a step adds to the database, together with what is then held and stored, is what was held and
stored before and what it records. -/
def Balanced (s : Shared) (p : Phase) (r : Shared × Phase × List Record) (exact : Prop) : Prop :=
  ∃ paid, Applies paid s.db r.1.db ∧ ∀ type id, ∃ k : ℤ,
    recorded type id paid+r.2.1.held type id+(r.1.stores type).get id =
      p.held type id+(s.stores type).get id+recorded type id r.2.2+k*2^64 ∧ (exact → k=0)

variable {s : Shared} {exact : Prop} {p p' : Phase}
lemma balanced_move (h : ∀ type id, p'.held type id=p.held type id) : Balanced s p (s,p',[]) exact := by
  refine ⟨[],applies_nil _,fun type id => ⟨0,?_,fun _ => rfl⟩⟩
  rw [h]
  simp

lemma balanced_write {paid : List Record}
    (hpaid : Applies paid s.db db) (h : ∀ type id, recorded type id paid+p'.held type id=p.held type id) :
    Balanced s p ({ s with db := db },p',[]) exact := by
  refine ⟨paid,hpaid,fun type id => ⟨0,?_,fun _ => rfl⟩⟩
  rw [← h]
  simp

lemma balanced_batchUpdate {now : ℤ} {key : ℕ} {r : Shared × Phase} (hp : p.Sound)
    (h : batchUpdate s now key p=some r) : Balanced s p (r.1,r.2,[]) exact := by
  cases p with
  | idle =>
    cases h
    exact balanced_move fun _ _ => rfl
  | counting | done => cases h
  | checking left =>
    cases left with
    | nil =>
      cases h
      exact balanced_move fun _ _ => rfl
    | cons type left =>
      cases h
      apply balanced_move
      intro type' id
      split <;> rfl
  | swapping left stores =>
    cases left with
    | nil =>
      cases h
      apply balanced_move
      intro type id
      cases type <;> rfl
    | cons type left =>
      cases h
      refine ⟨[],applies_nil _,fun type' id => ⟨0,?_,fun _ => rfl⟩⟩
      by_cases htype : type'=type
      · subst htype
        have hzero := hp.2 type' mem_cons_self id
        simp [held,hzero]
      · simp [held,update_of_ne htype]
  | tokens left stores =>
    simp only [batchUpdate] at h
    split at h
    next hemp =>
      cases h
      apply balanced_move
      intro type id
      cases type with
      | tokenQuota => exact (get_of_keys_eq_empty hemp id).symm
      | _ => rfl
    · split at h
      · cases h
        refine balanced_write (applies_tokens key fun _ => ⟨rfl,rfl⟩) fun type id => ?_
        cases type with
        | tokenQuota =>
          by_cases hid : key=id
          · simp [held,get_erase,hid]
          · simp [held,get_erase,hid,Ne.symm hid]
        | _ => simp [held]
      · cases h
  | channels left stores =>
    simp only [batchUpdate] at h
    split at h
    next hemp =>
      cases h
      apply balanced_move
      intro type id
      cases type with
      | tokenQuota => rfl
      | channelUsedQuota => exact (get_of_keys_eq_empty hemp id).symm
      | userQuota | usedQuota | requestCount =>
        simp only [held]
        split
        · rfl
        next hid =>
        simp only [Finset.mem_union,not_or] at hid
        exact (get_of_not_mem _ id (by tauto)).symm
    · split at h
      · cases h
        refine balanced_write (applies_updateChannelUsedQuota key _) fun type id => ?_
        cases type with
        | channelUsedQuota =>
          by_cases hid : key=id
          · simp [held,get_erase,hid]
          · simp [held,get_erase,hid,Ne.symm hid]
        | _ => simp [held]
      · cases h
  | users left stores =>
    simp only [batchUpdate] at h
    split at h
    next hemp =>
      cases h
      apply balanced_move
      intro type id
      cases type <;> simp [held,hemp]
    split at h
    next hkey =>
      cases h
      refine balanced_write (applies_updateUserQuotaUsedQuotaAndRequestCount key _ _ _) fun type id => ?_
      by_cases hid : key=id
      · subst hid
        cases type <;> simp [held,hkey]
      · cases type <;> simp [held,hid,Ne.symm hid]
    · cases h

def Call.records : Call → List Record
  | .increaseUserQuota id quota _ => if quota<0 then [] else [⟨.userQuota,id,quota⟩]
  | .decreaseUserQuota id quota _ => if quota<0 then [] else [⟨.userQuota,id,-quota⟩]
  | .increaseTokenQuota id quota => if quota<0 then [] else [⟨.tokenQuota,id,quota⟩]
  | .decreaseTokenQuota id quota => if quota<0 then [] else [⟨.tokenQuota,id,-quota⟩]
  | .updateUserUsedQuotaAndRequestCount id quota => [⟨.usedQuota,id,quota⟩,⟨.requestCount,id,1⟩]
  | .updateChannelUsedQuota id quota => [⟨.channelUsedQuota,id,quota⟩]

inductive Does (batchUpdateEnabled : Bool) : Call → Phase → Op → Prop
  | refuse {c error} (hrecords : c.records=[]) : Does batchUpdateEnabled c .idle (.fail error)
  | only {c r} (henabled : batchUpdateEnabled=true) (hrecords : c.records=[r]) :
      Does batchUpdateEnabled c .idle (.add r (.done none))
  | first {id quota} (henabled : batchUpdateEnabled=true) :
      Does batchUpdateEnabled (.updateUserUsedQuotaAndRequestCount id quota) .idle (.add ⟨.usedQuota,id,quota⟩ .counting)
  | second {id quota} :
      Does batchUpdateEnabled (.updateUserUsedQuotaAndRequestCount id quota) .counting (.add ⟨.requestCount,id,1⟩ (.done none))
  | write {c records} {f : Database → Database} (hrecords : c.records=records) (happlies : ∀ db, Applies records db (f db)) :
      Does batchUpdateEnabled c .idle (.write f records)

variable {batchUpdateEnabled : Bool} {now : ℤ} {c : Call}
lemma does_of_amount {r : Record} {batched : Bool} {f : Database → Database} {error : String}
    (hrecords : c.records=if quota<0 then [] else [r]) (hbatc : batched=true → batchUpdateEnabled=true)
    (happlies : ∀ db, Applies [r] db (f db)) : Does batchUpdateEnabled c .idle
      (if quota<0 then .fail error else if batched then .add r (.done none) else .write f [r]) := by
  split
  next hneg =>
    rw [if_pos hneg] at hrecords
    exact .refuse hrecords
  next hpos =>
  rw [if_neg hpos] at hrecords
  split
  next hb => exact .only (hbatc hb) hrecords
  · exact .write hrecords happlies

variable {op : Op}
lemma does_of_stmt (h : c.stmt batchUpdateEnabled now p=some op) : Does batchUpdateEnabled c p op := by
  have hphase : p=.idle ∨ p=.counting := by
    cases p with
    | idle => exact .inl rfl
    | counting => exact .inr rfl
    | _ => cases c <;> cases h
  rcases hphase with rfl | rfl
  · cases c with
    | increaseUserQuota id quota db =>
      cases h
      refine does_of_amount rfl (fun hb => (Bool.and_eq_true_iff.mp hb).2) fun db => ?_
      exact Applies.congr (applies_users id quota 0 0 fun u => by simp) fun type j => by simp
    | decreaseUserQuota id quota db =>
      cases h
      refine does_of_amount rfl (fun hb => (Bool.and_eq_true_iff.mp hb).2) fun db => ?_
      exact Applies.congr (applies_users id (-quota) 0 0 fun u => by simp [sub_eq_add_neg]) fun type j => by simp
    | increaseTokenQuota id quota =>
      cases h
      exact does_of_amount rfl (fun hb => hb) fun db => applies_tokens _ fun _ => ⟨rfl,rfl⟩
    | decreaseTokenQuota id quota =>
      cases h
      exact does_of_amount rfl (fun hb => hb) fun db => applies_tokens _ fun _ => ⟨sub_eq_add_neg _ _,
        (sub_neg_eq_add _ _).symm⟩
    | updateUserUsedQuotaAndRequestCount id quota =>
      cases h
      split
      next hb => exact .first hb
      refine .write rfl fun db => ?_
      exact Applies.congr (applies_users id 0 quota 1 fun u => by simp) fun type j => by simp
    | updateChannelUsedQuota id quota =>
      cases h
      split
      next hb => exact .only hb rfl
      · exact .write rfl fun db => applies_updateChannelUsedQuota id quota
  · cases c with
    | updateUserUsedQuotaAndRequestCount id quota =>
      cases h
      exact .second
    | _ => cases h

lemma held_of_does (h : Does batchUpdateEnabled c p op) (s : Shared) (type : BatchUpdateType)
    (id : ℕ) : p.held type id=0 ∧ (perform s op).2.1.held type id=0 := by
  cases h <;> exact ⟨rfl,rfl⟩

lemma balanced_call (h : Does batchUpdateEnabled c p op)
    (hexc : exact → op.Fits s.stores) : Balanced s p (perform s op) exact := by
  have hheld := held_of_does h s
  cases op with
  | fail error => exact balanced_move fun type id => ((hheld type id).2).trans (hheld type id).1.symm
  | add r p' =>
    refine ⟨[],applies_nil _,fun type id => ?_⟩
    obtain ⟨k,hk,hzero⟩ := get_addNewRecord r s.stores type id
    refine ⟨k,?_,fun he => hzero (hexc he)⟩
    rw [(hheld type id).1,(hheld type id).2,recorded_nil]
    simp only [perform,hk]
    omega
  | write f records =>
    have happlies : Applies records s.db (f s.db) := by
      cases h with
      | write _ happlies => exact happlies _
    refine ⟨records,happlies,fun type id => ⟨0,?_,fun _ => rfl⟩⟩
    rw [(hheld type id).1,(hheld type id).2]
    simp only [perform]
    omega

variable {r : Shared × Phase × List Record} {job : Job} {a : Act}
lemma balanced_next (hp : p.Sound)
    (hexc : exact → ∀ c op, job=.call c → c.stmt batchUpdateEnabled a.now p=some op → op.Fits s.stores)
    (h : next batchUpdateEnabled job s p a=some r) : Balanced s p r exact := by
  cases job with
  | call c =>
    obtain ⟨op,hop,rfl⟩ := Option.map_eq_some_iff.mp h
    exact balanced_call (does_of_stmt hop) fun he => hexc he c op rfl hop
  | batchUpdate =>
    obtain ⟨r',hr',rfl⟩ := Option.map_eq_some_iff.mp h
    exact balanced_batchUpdate hp hr'

lemma sound_next (hp : p.Sound) (h : next batchUpdateEnabled job s p a=some r) : r.2.1.Sound := by
  cases job with
  | call c =>
    obtain ⟨op,hop,rfl⟩ := Option.map_eq_some_iff.mp h
    cases does_of_stmt hop <;> trivial
  | batchUpdate =>
    obtain ⟨r',hr',rfl⟩ := Option.map_eq_some_iff.mp h
    cases p with
    | swapping left stores =>
      cases left with
      | nil =>
        cases hr'
        trivial
      | cons type left =>
        cases hr'
        refine ⟨hp.1.of_cons,fun type' htyp' id => ?_⟩
        have hne : type'≠type := fun heq => (nodup_cons.mp hp.1).1 (heq ▸ htyp')
        rw [update_of_ne hne]
        exact hp.2 type' (mem_cons_of_mem _ htyp') id
    | checking left =>
      cases left with
      | nil =>
        cases hr'
        trivial
      | cons type left =>
        cases hr'
        show Phase.Sound (if _ then _ else _)
        split
        · trivial
        · exact ⟨by decide,fun _ _ _ => rfl⟩
    | tokens | channels | users =>
      simp only [batchUpdate] at hr'
      split at hr'
      · cases hr'
        trivial
      split at hr'
      · cases hr'
        trivial
      · cases hr'
    | idle =>
      cases hr'
      trivial
    | counting | done => cases hr'

variable {W : Type*} {jobs : W → Job}
def NoOverflow (batchUpdateEnabled : Bool) (jobs : W → Job) (s : Sys W) (a : W × Act) : Prop :=
  ∀ c op, jobs a.1=.call c → c.stmt batchUpdateEnabled a.2.now (s.phase a.1)=some op → op.Fits s.shared.stores

variable [Fintype W]
namespace Counter

/-- What batch updates have taken out of the stores and not yet written to the counter. -/
def swappedOut (c : Counter) (id : ℕ) (s : Sys W) : ℤ := c.sign*∑ w, (s.phase w).held c.type id

def inStores (c : Counter) (id : ℕ) (s : Sys W) : ℤ := c.sign*(s.shared.stores c.type).get id

def recordedIn (c : Counter) (id : ℕ) (log : List (W × Record)) : ℤ := c.sign*recorded c.type id (log.map Prod.snd)
end Counter

structure Conserved (db : Database) (exact : Prop) (s : Sys W) : Prop where
  sound : ∀ w, (s.phase w).Sound
  books : ∃ paid, Applies paid db s.shared.db ∧ ∀ type id, ∃ k : ℤ,
    recorded type id paid+∑ w, (s.phase w).held type id+(s.shared.stores type).get id =
      recorded type id (s.log.map Prod.snd)+k*2^64 ∧ (exact → k=0)

lemma conserved_start (db : Database) : Conserved db exact (start db : Sys W) := by
  refine ⟨fun _ => trivial,[],applies_nil _,fun type id => ⟨0,?_,fun _ => rfl⟩⟩
  simp [start,Interleave.start,held]

lemma Conserved.value {s : Sys W} (h : Conserved db exact s) (c : Counter) (id : ℕ) : ∃ k : ℤ, s.shared.db.value c id =
      (db.value c id).map (fun v => v+c.recordedIn id s.log+k*2^64-c.swappedOut id s-c.inStores id s) ∧ (exact → k=0) := by
  obtain ⟨paid,hpaid,hbks⟩ := h.books
  obtain ⟨k,hk,hzero⟩ := hbks c.type id
  refine ⟨c.sign*k,?_,fun he => by rw [hzero he,mul_zero]⟩
  rw [hpaid c id]
  congr 1
  funext v
  have hpd' : recorded c.type id paid=recorded c.type id (s.log.map Prod.snd)+k*2^64-
      ∑ w, (s.phase w).held c.type id-(s.shared.stores c.type).get id := by omega
  rw [hpd',recordedIn,swappedOut,inStores]
  ring

variable [DecidableEq W]
lemma Conserved.step {s t : Sys W} {a : W × Act} (h : Conserved db exact s)
    (hexc : exact → NoOverflow batchUpdateEnabled jobs s a) (hstep : Batch.step batchUpdateEnabled jobs s a=some t) :
    Conserved db exact t := by
  obtain ⟨w,act⟩ := a
  obtain ⟨r,hnext,rfl⟩ := step_eq_some.mp hstep
  obtain ⟨paid,hpaid,hbks⟩ := h.books
  obtain ⟨more,hmore,hstp⟩ := balanced_next (h.sound w) hexc hnext
  refine ⟨?_,paid++more,hpaid.trans hmore,fun type id => ?_⟩
  · exact forall_phase_advance (fun _ => Phase.Sound) (fun _ => Phase.Sound) h.sound (sound_next (h.sound w) hnext)
      fun _ _ hv => hv
  · obtain ⟨k,hk,hzero⟩ := hbks type id
    obtain ⟨l,hl,hlzr⟩ := hstp type id
    refine ⟨k+l,?_,fun he => by rw [hzero he,hlzr he,add_zero]⟩
    have hheld := sum_apply_update (fun _ (p : Phase) => p.held type id) s.phase w r.2.1
    have hlog : (s.advance w r).log.map Prod.snd=s.log.map Prod.snd++r.2.2 := by
      rw [advance_log,map_append,map_map]
      simp [comp_def]
    have hphase : (s.advance w r).phase=update s.phase w r.2.1 := rfl
    rw [hlog,hphase,hheld,recorded_append,recorded_append,advance_shared]
    omega
end AronaApi.Batch
