import UnionBridge.Common.Block
import UnionBridge.Lib.Effect
import UnionBridge.Lib.Hex
import UnionBridge.Lib.LruCache
import UnionBridge.Lib.Outcome
import UnionBridge.Lib.Table

/-!
# The block store and its cache (`block-indexer/src/store.rs`, `block-indexer/src/cache.rs`)

Blocks are stored under their hash; a height is stored as the hash of its canonical block, and the best
block and the checkpoint under keys of their own. All blocks but the checkpoint are cached, and a
canonical block is cached as a block, under its height.

The store is written for any cache. A cache is honest (`Cache.IsHonest`) when it returns only what was
inserted under the key. In front of a database, an honest cache whose entries are what the database
would answer (`Answers`) cannot be noticed, and every operation keeps it that way.
-/

namespace UnionBridge.BlockIndexer

open Chain Effect

/-! ## Keys -/

/-- The `Display` of a hash. -/
def hashText (hash : BlockHash) : String := "0x" ++ Hex.encode hash.toBigEndian

inductive StoreKey where
  | blockByHash (hash : BlockHash)
  | blockByNumber (height : Nat)
  | bestBlock
  | backSyncCheckpoint
deriving DecidableEq

def StoreKey.value : StoreKey → String
  | blockByHash hash => "block/hash/" ++ hashText hash
  | blockByNumber height => "block/height/" ++ toString height
  | bestBlock => "meta/best_block"
  | backSyncCheckpoint => "meta/tmp_back_sync_checkpoint"

/-- What is left of a hash's text when its digits are read. -/
def readHashText (text : String) : Option BlockHash := (Hex.decode text).map U256.fromBigEndian

theorem readHashText_hashText (hash : BlockHash) : readHashText (hashText hash) = some hash := by
  have hdecode : Hex.decode (hashText hash) = some hash.toBigEndian := by
    have hchars : (hashText hash).toList = '0' :: 'x' :: hash.toBigEndian.flatMap Hex.encodeByte := by
      simp [hashText, Hex.encode]
    unfold Hex.decode
    rw [hchars]
    exact Hex.decodeChars_encode _
  have hvalue : U256.fromBigEndian hash.toBigEndian = hash := by
    refine BitVec.eq_of_toNat_eq ?_
    have hlt : hash.toNat < 256 ^ 32 := hash.isLt
    rw [U256.fromBigEndian, U256.toBigEndian, BitVec.toNat_ofNat, beNat_toBE hlt,
      Nat.mod_eq_of_lt hash.isLt]
  rw [readHashText, hdecode, Option.map_some, hvalue]

theorem hashText_inj {a b : BlockHash} (h : hashText a = hashText b) : a = b := by
  have hread := congrArg readHashText h
  rw [readHashText_hashText, readHashText_hashText] at hread
  exact Option.some.inj hread

theorem StoreKey.value_inj {a b : StoreKey} (h : a.value = b.value) : a = b := by
  have hchars : a.value.toList = b.value.toList := congrArg String.toList h
  -- keys of different kinds differ in one of their first letters
  cases a <;> cases b <;> simp [value] at hchars ⊢
  · exact hashText_inj (String.ext hchars)
  · have hdigits := congrArg (fun digits => Nat.ofDigitChars 10 digits 0) hchars
    simpa only [Nat.ofDigitChars_toDigits (b := 10) (by decide) (by decide)] using hdigits

/-! ## The database and the cache -/

/-- The storage keeps values of a type `J`. What it needs of their serialisation: a block is read back
as it was written, and so is a hash from its text. -/
structure Serde (J : Type) where
  ofBlock : RskBlock → J
  toBlock : J → Option RskBlock
  ofText : String → J
  toHash : J → Option BlockHash
  toBlock_ofBlock : ∀ block, toBlock (ofBlock block) = some block
  toHash_ofText : ∀ hash, toHash (ofText (hashText hash)) = some hash

/-- `Cache<RskBlock>`, with the cache as a state. -/
structure Cache (γ : Type) where
  get : String → γ → Option RskBlock × γ
  insert : String → RskBlock → γ → Option RskBlock × γ

def lruCache : Cache (LruCache String RskBlock) := ⟨LruCache.get, LruCache.put⟩

/-- A cache that remembers nothing. -/
def noCache : Cache Unit := ⟨fun _ _ => (none, ()), fun _ _ _ => (none, ())⟩

/-- A cache returns what was inserted under the key, or nothing: `Holds c P` says that all it can return
satisfies `P`. -/
structure Cache.IsHonest {γ : Type} (cache : Cache γ)
    (Holds : γ → (String → RskBlock → Prop) → Prop) : Prop where
  get : ∀ {c P} key, Holds c P →
    (∀ block, (cache.get key c).1 = some block → P key block) ∧ Holds (cache.get key c).2 P
  insert : ∀ {c} {P P' : String → RskBlock → Prop} {key block}, Holds c P → P' key block →
    (∀ key' block', key' ≠ key → P key' block' → P' key' block') →
    Holds (cache.insert key block c).2 P'
  mono : ∀ {c} {P P' : String → RskBlock → Prop}, Holds c P →
    (∀ key block, P key block → P' key block) → Holds c P'

theorem lruCache_isHonest : lruCache.IsHonest LruCache.Holds :=
  ⟨fun _ h => h.get, fun h hblock hothers => h.touch hblock hothers, fun h hP => h.mono hP⟩

theorem noCache_isHonest : noCache.IsHonest fun _ _ => True :=
  ⟨fun _ _ => ⟨(fun _ heq => nomatch heq), trivial⟩, fun _ _ _ => trivial, fun _ _ => trivial⟩

structure CachedBlockStore (J γ : Type) where
  db : Table String J
  blockCache : γ

/-- An error gets the text of its context; a panic stays. -/
def Failure.context (text : String) : Failure → Failure
  | .err _ => .err text
  | .panic message => .panic message

namespace CachedBlockStore

abbrev Program (J γ α : Type) := EStateM Failure (CachedBlockStore J γ) α

variable {J γ α : Type}

section Access

variable (cache : Cache γ)

def saveToCache (key : String) (value : RskBlock) : Program J γ (Option RskBlock) :=
  modifyGet fun store =>
    let (replaced, blockCache) := cache.insert key value store.blockCache
    (replaced, { store with blockCache })

def getFromCache (key : String) : Program J γ (Option RskBlock) :=
  modifyGet fun store =>
    let (block, blockCache) := cache.get key store.blockCache
    (block, { store with blockCache })

/-- A value that cannot be read is an error. -/
def getFromDb (read : J → Option α) (key : String) : Program J γ (Option α) := do
  let store ← get
  match store.db.lookup key with
  | none => pure none
  | some value =>
    match read value with
    | none => throw (.err "Failed to deserialize value")
    | some a => pure (some a)

def setOnDb (key : String) (value : J) : Program J γ Unit :=
  modify fun store => { store with db := store.db.insert key value }

def deleteFromDb (key : String) : Program J γ Unit :=
  modify fun store => { store with db := store.db.erase key }

/-- `result.context(text)`. -/
def context (text : String) (m : Program J γ α) : Program J γ α := fun store =>
  match m store with
  | .ok a store' => .ok a store'
  | .error e store' => .error (Failure.context text e) store'

end Access

/-! ## The operations -/

section Operations

variable (serde : Serde J) (cache : Cache γ)

/-- The body that `get_best_block` and `get_block_by_hash` share. -/
def getBlock (key : String) : Program J γ (Option RskBlock) := do
  match ← getFromCache cache key with
  | some cachedBlock => pure (some cachedBlock)
  | none =>
    match ← getFromDb serde.toBlock key with
    | some block => do
      let _ ← saveToCache cache key block
      pure (some block)
    | none => pure none

/-- The body that `set_best_block` and `save_block` share. -/
def setBlock (key : String) (value : RskBlock) : Program J γ Unit := do
  let _ ← saveToCache cache key value
  setOnDb key (serde.ofBlock value)

def getBestBlock : Program J γ (Option RskBlock) := getBlock serde cache StoreKey.bestBlock.value

def setBestBlock (value : RskBlock) : Program J γ Unit :=
  setBlock serde cache StoreKey.bestBlock.value value

def getBackSyncCheckpoint : Program J γ (Option RskBlock) :=
  getFromDb serde.toBlock StoreKey.backSyncCheckpoint.value

def setBackSyncCheckpoint (value : RskBlock) : Program J γ Unit :=
  setOnDb StoreKey.backSyncCheckpoint.value (serde.ofBlock value)

def resetBackSyncCheckpoint : Program J γ Unit := deleteFromDb StoreKey.backSyncCheckpoint.value

def getBlockByHash (hash : BlockHash) : Program J γ (Option RskBlock) :=
  getBlock serde cache (StoreKey.blockByHash hash).value

def saveBlock (value : RskBlock) : Program J γ Unit :=
  setBlock serde cache (StoreKey.blockByHash value.hash).value value

/-- A height is stored as a hash, and its block is found through it. -/
def getCanonicalBlock (blockHeight : Nat) : Program J γ (Option RskBlock) := do
  let key := (StoreKey.blockByNumber blockHeight).value
  match ← getFromCache cache key with
  | some cachedBlock => pure (some cachedBlock)
  | none =>
    match ← getFromDb serde.toHash key with
    | none => pure none
    | some blockHash =>
      match ← getBlockByHash serde cache blockHash with
      | none => pure none
      | some dbBlock => do
        let _ ← saveToCache cache key dbBlock
        pure (some dbBlock)

def setCanonicalBlock (block : RskBlock) : Program J γ Unit := do
  let key := (StoreKey.blockByNumber block.number).value
  let _ ← saveToCache cache key block
  setOnDb key (serde.ofText (hashText block.hash))

end Operations

/-- What the users of a store can do, and starting again on the same database. -/
inductive Op where
  | getBestBlock
  | setBestBlock (value : RskBlock)
  | getBackSyncCheckpoint
  | setBackSyncCheckpoint (value : RskBlock)
  | resetBackSyncCheckpoint
  | getBlockByHash (hash : BlockHash)
  | saveBlock (value : RskBlock)
  | getCanonicalBlock (blockHeight : Nat)
  | setCanonicalBlock (block : RskBlock)
  | reopen
deriving DecidableEq

/-- The block that an operation brings into the store. -/
def Op.block? : Op → Option RskBlock
  | setBestBlock value | setBackSyncCheckpoint value | saveBlock value => some value
  | setCanonicalBlock block => some block
  | _ => none

/-- The result of a write has no block. -/
def done (m : Program J γ Unit) : Program J γ (Option RskBlock) := do
  m
  return none

section Run

variable (serde : Serde J) (cache : Cache γ) (fresh : γ)

def perform : Op → Program J γ (Option RskBlock)
  | .getBestBlock => context "Error getting best block from store" (getBestBlock serde cache)
  | .setBestBlock value => done <| setBestBlock serde cache value
  | .getBackSyncCheckpoint =>
    context "Error getting back sync checkpoint from store" (getBackSyncCheckpoint serde)
  | .setBackSyncCheckpoint value => done <| setBackSyncCheckpoint serde value
  | .resetBackSyncCheckpoint => done <| resetBackSyncCheckpoint
  | .getBlockByHash hash =>
    context ("Error getting getting block " ++ hashText hash) (getBlockByHash serde cache hash)
  | .saveBlock value => done <| saveBlock serde cache value
  | .getCanonicalBlock blockHeight =>
    context ("Error getting canonical block for height: " ++ toString blockHeight)
      (getCanonicalBlock serde cache blockHeight)
  | .setCanonicalBlock block => done <| setCanonicalBlock serde cache block
  | .reopen => modifyGet fun store => (none, { store with blockCache := fresh })

def results (store : CachedBlockStore J γ) : List Op → List (Outcome (Option RskBlock))
  | [] => []
  | op :: ops =>
    match perform serde cache fresh op store with
    | .ok block store' => .ok block :: results store' ops
    | .error e store' => .error e :: results store' ops

end Run

/-! ## The database alone -/

section Database

variable (serde : Serde J) (db : Table String J)

/-- What the database has under a key, if it can be read. -/
def readBlock (key : String) : Outcome (Option RskBlock) :=
  match db.lookup key with
  | none => .ok none
  | some value =>
    match serde.toBlock value with
    | none => Outcome.fail "Failed to deserialize value"
    | some block => .ok (some block)

def readCanonical (height : Nat) : Outcome (Option RskBlock) :=
  match db.lookup (StoreKey.blockByNumber height).value with
  | none => .ok none
  | some value =>
    match serde.toHash value with
    | none => Outcome.fail "Failed to deserialize value"
    | some hash => readBlock serde db (StoreKey.blockByHash hash).value

def answer : Op → Outcome (Option RskBlock)
  | .getBestBlock =>
    (readBlock serde db StoreKey.bestBlock.value).mapError
      (Failure.context "Error getting best block from store")
  | .getBackSyncCheckpoint =>
    (readBlock serde db StoreKey.backSyncCheckpoint.value).mapError
      (Failure.context "Error getting back sync checkpoint from store")
  | .getBlockByHash hash =>
    (readBlock serde db (StoreKey.blockByHash hash).value).mapError
      (Failure.context ("Error getting getting block " ++ hashText hash))
  | .getCanonicalBlock blockHeight =>
    (readCanonical serde db blockHeight).mapError
      (Failure.context ("Error getting canonical block for height: " ++ toString blockHeight))
  | _ => .ok none

/-- The database after an operation. -/
def next : Op → Table String J
  | .setBestBlock value => db.insert StoreKey.bestBlock.value (serde.ofBlock value)
  | .setBackSyncCheckpoint value =>
    db.insert StoreKey.backSyncCheckpoint.value (serde.ofBlock value)
  | .resetBackSyncCheckpoint => db.erase StoreKey.backSyncCheckpoint.value
  | .saveBlock value => db.insert (StoreKey.blockByHash value.hash).value (serde.ofBlock value)
  | .setCanonicalBlock block =>
    db.insert (StoreKey.blockByNumber block.number).value (serde.ofText (hashText block.hash))
  | _ => db

end Database

/-- The block is what the database answers for the key; the checkpoint is never cached. -/
def Answers (serde : Serde J) (db : Table String J) : StoreKey → RskBlock → Prop
  | .blockByNumber height, block => readCanonical serde db height = .ok (some block)
  | .backSyncCheckpoint, _ => False
  | key, block => readBlock serde db key.value = .ok (some block)

/-- The same for the text of a key, as a cache has it. -/
def Agrees (serde : Serde J) (db : Table String J) (text : String) (block : RskBlock) : Prop :=
  ∀ key : StoreKey, key.value = text → Answers serde db key block

theorem agrees_value {serde : Serde J} {db : Table String J} {key : StoreKey} {block : RskBlock} :
    Agrees serde db key.value block ↔ Answers serde db key block := by
  refine ⟨fun h => h key rfl, fun h key' heq => ?_⟩
  rw [StoreKey.value_inj heq]
  exact h

section Change

variable {serde : Serde J} {db : Table String J} {key changed : StoreKey} {value : J} {block : RskBlock}

theorem readBlock_eq_some {text : String} :
    readBlock serde db text = .ok (some block)
      ↔ ∃ value, db.lookup text = some value ∧ serde.toBlock value = some block := by
  unfold readBlock
  cases db.lookup text with
  | none => simp
  | some value =>
    dsimp only
    cases hread : serde.toBlock value with
    | none => simp [Outcome.fail, hread]
    | some found => simp [hread]

theorem readCanonical_eq_some {height : Nat} :
    readCanonical serde db height = .ok (some block)
      ↔ ∃ text hash, db.lookup (StoreKey.blockByNumber height).value = some text
        ∧ serde.toHash text = some hash
        ∧ readBlock serde db (StoreKey.blockByHash hash).value = .ok (some block) := by
  unfold readCanonical
  cases db.lookup (StoreKey.blockByNumber height).value with
  | none => simp
  | some text =>
    dsimp only
    cases hread : serde.toHash text with
    | none => simp [Outcome.fail, hread]
    | some hash => simp [hread]

/-- An answer depends on the entry of its key. A canonical block is read in two steps, so the blocks
that are stored must stay as well. -/
theorem Answers.of_lookup {db' : Table String J} (h : Answers serde db key block)
    (hkey : db'.lookup key.value = db.lookup key.value)
    (hblocks : ∀ hash old, db.lookup (StoreKey.blockByHash hash).value = some old →
      db'.lookup (StoreKey.blockByHash hash).value = some old) : Answers serde db' key block := by
  have hread : readBlock serde db' key.value = readBlock serde db key.value := by
    rw [readBlock, hkey, readBlock]
  cases key with
  | blockByHash hash => exact hread.trans h
  | bestBlock => exact hread.trans h
  | backSyncCheckpoint => exact h
  | blockByNumber height =>
    obtain ⟨text, hash, hlookup, hhash, hblock⟩ := readCanonical_eq_some.mp h
    obtain ⟨old, hold, hblock⟩ := readBlock_eq_some.mp hblock
    exact readCanonical_eq_some.mpr ⟨text, hash, hkey.trans hlookup, hhash,
      readBlock_eq_some.mpr ⟨old, hblocks hash old hold, hblock⟩⟩

theorem lookup_insert_value (hne : key ≠ changed) :
    (db.insert changed.value value).lookup key.value = db.lookup key.value :=
  AList.lookup_insert_ne fun heq => hne (StoreKey.value_inj heq)

theorem readBlock_insert_self (block : RskBlock) :
    readBlock serde (db.insert key.value (serde.ofBlock block)) key.value = .ok (some block) := by
  simp only [readBlock, AList.lookup_insert, serde.toBlock_ofBlock]

theorem Answers.insert (h : Answers serde db key block) (hne : key ≠ changed)
    (hsame : ∀ hash, changed = .blockByHash hash → ∀ old, db.lookup changed.value = some old →
      old = value) : Answers serde (db.insert changed.value value) key block := by
  refine h.of_lookup (lookup_insert_value hne) fun hash old hold => ?_
  by_cases heq : StoreKey.blockByHash hash = changed
  · subst heq
    rw [AList.lookup_insert, hsame hash rfl old hold]
  · rw [lookup_insert_value heq, hold]

end Change

/-! ## Operations behind an honest cache -/

section Honest

variable {serde : Serde J} {cache : Cache γ} {Holds : γ → (String → RskBlock → Prop) → Prop}
  {store : CachedBlockStore J γ}

/-- The program ends as the database says, and leaves a cache that agrees with the database. -/
def Ends (serde : Serde J) (Holds : γ → (String → RskBlock → Prop) → Prop) (m : Program J γ α)
    (store : CachedBlockStore J γ) (outcome : Outcome α) (db : Table String J) : Prop :=
  wp m (fun a store' => outcome = .ok a ∧ store'.db = db ∧ Holds store'.blockCache (Agrees serde db))
    (fun e store' => outcome = .error e ∧ store'.db = db ∧ Holds store'.blockCache (Agrees serde db))
    store

theorem wp_getFromDb {read : J → Option α} {key : String}
    {Q : Option α → CachedBlockStore J γ → Prop} {E : Failure → CachedBlockStore J γ → Prop} :
    wp (getFromDb read key) Q E store ↔ match store.db.lookup key with
      | none => Q none store
      | some value => match read value with
        | none => E (.err "Failed to deserialize value") store
        | some a => Q (some a) store := by
  rw [getFromDb, wp_bind, wp_get]
  cases store.db.lookup key with
  | none => exact Iff.rfl
  | some value =>
    dsimp only
    cases read value with
    | none => exact Iff.rfl
    | some a => exact Iff.rfl

theorem ends_context {m : Program J γ α} {outcome : Outcome α} {text : String}
    {db : Table String J} (h : Ends serde Holds m store outcome db) :
    Ends serde Holds (context text m) store (outcome.mapError (Failure.context text)) db := by
  unfold Ends wp at h ⊢
  unfold context
  cases hm : m store with
  | ok a store' =>
    rw [hm] at h
    exact ⟨by rw [h.1]; rfl, h.2⟩
  | error e store' =>
    rw [hm] at h
    exact ⟨by rw [h.1]; rfl, h.2⟩

theorem ends_done {m : Program J γ Unit} {db : Table String J}
    (h : Ends serde Holds m store (.ok ()) db) : Ends serde Holds (done m) store (.ok none) db := by
  unfold Ends at h ⊢
  rw [done, wp_bind]
  exact wp_mono h (fun _ _ hok => ⟨rfl, hok.2⟩) fun _ _ herr => nomatch herr.1

variable (h : Holds store.blockCache (Agrees serde store.db))

include h

theorem getCheckpoint_ends : Ends serde Holds (getBackSyncCheckpoint serde) store
      (readBlock serde store.db StoreKey.backSyncCheckpoint.value) store.db := by
  unfold Ends
  rw [getBackSyncCheckpoint, wp_getFromDb, readBlock]
  cases store.db.lookup StoreKey.backSyncCheckpoint.value with
  | none => exact ⟨rfl, rfl, h⟩
  | some value =>
    dsimp only
    cases serde.toBlock value with
    | none => exact ⟨rfl, rfl, h⟩
    | some block => exact ⟨rfl, rfl, h⟩

variable (honest : cache.IsHonest Holds)

include honest

theorem getBlock_ends (key : StoreKey) (hkey : ∀ block, Answers serde store.db key block
      ↔ readBlock serde store.db key.value = .ok (some block)) :
    Ends serde Holds (getBlock serde cache key.value) store (readBlock serde store.db key.value)
      store.db := by
  obtain ⟨hhit, hcache⟩ := honest.get key.value h
  unfold Ends
  rw [getBlock, wp_bind, getFromCache, wp_modifyGet]
  dsimp only
  cases hget : (cache.get key.value store.blockCache).1 with
  | some block =>
    -- a hit is what the database would have answered
    exact ⟨(hkey block).mp (agrees_value.mp (hhit block hget)), rfl, hcache⟩
  | none =>
    rw [wp_bind, wp_getFromDb]
    dsimp only
    cases hlookup : store.db.lookup key.value with
    | none => exact ⟨by rw [readBlock, hlookup], rfl, hcache⟩
    | some value =>
      dsimp only
      cases hblock : serde.toBlock value with
      | none =>
        refine ⟨?_, rfl, hcache⟩
        simp only [readBlock, hlookup, hblock]
        rfl
      | some block =>
        have hread : readBlock serde store.db key.value = .ok (some block) := by
          simp only [readBlock, hlookup, hblock]
        dsimp only
        rw [wp_bind, saveToCache, wp_modifyGet]
        exact ⟨hread, rfl, honest.insert hcache (agrees_value.mpr ((hkey block).mpr hread))
          fun _ _ _ hP => hP⟩

theorem getCanonicalBlock_ends {height : Nat} :
    Ends serde Holds (getCanonicalBlock serde cache height) store
      (readCanonical serde store.db height) store.db := by
  obtain ⟨hhit, hcache⟩ := honest.get (StoreKey.blockByNumber height).value h
  unfold Ends
  rw [getCanonicalBlock, wp_bind, getFromCache, wp_modifyGet]
  dsimp only
  cases hget : (cache.get (StoreKey.blockByNumber height).value store.blockCache).1 with
  | some block => exact ⟨agrees_value.mp (hhit block hget), rfl, hcache⟩
  | none =>
    rw [wp_bind, wp_getFromDb]
    dsimp only
    cases hlookup : store.db.lookup (StoreKey.blockByNumber height).value with
    | none => exact ⟨by rw [readCanonical, hlookup], rfl, hcache⟩
    | some value =>
      dsimp only
      cases hhash : serde.toHash value with
      | none =>
        refine ⟨?_, rfl, hcache⟩
        simp only [readCanonical, hlookup, hhash]
        rfl
      | some hash =>
        -- the block is found through its hash, behind the same cache
        have hread : readCanonical serde store.db height
            = readBlock serde store.db (StoreKey.blockByHash hash).value := by
          simp only [readCanonical, hlookup, hhash]
        let store' : CachedBlockStore J γ :=
          ⟨store.db, (cache.get (StoreKey.blockByNumber height).value store.blockCache).2⟩
        have hblock := getBlock_ends (show Holds store'.blockCache (Agrees serde store'.db) from hcache) honest (.blockByHash hash)
          fun _ => Iff.rfl
        dsimp only
        rw [hread, wp_bind]
        refine wp_imp hblock fun block store' hok => ?_
        obtain ⟨hok, hdb, hcache'⟩ := hok
        cases block with
        | none => exact ⟨hok, hdb, hcache'⟩
        | some block =>
          dsimp only
          rw [wp_bind, saveToCache, wp_modifyGet]
          exact ⟨hok, hdb, honest.insert hcache' (agrees_value.mpr (hread.trans hok))
            fun _ _ _ hP => hP⟩

/-- A cached write: the new entry agrees with the new database, and the others still do. -/
theorem cachedWrite_ends {changed : StoreKey} {block : RskBlock} {value : J}
    (hnew : Answers serde (store.db.insert changed.value value) changed block)
    (hsame : ∀ hash, changed = .blockByHash hash → ∀ old, store.db.lookup changed.value = some old →
      old = value) :
    Ends serde Holds (do
      let _ ← saveToCache cache changed.value block
      setOnDb changed.value value) store (.ok ()) (store.db.insert changed.value value) := by
  unfold Ends
  rw [wp_bind, saveToCache, wp_modifyGet, setOnDb, wp_modify]
  refine ⟨rfl, rfl, honest.insert h (agrees_value.mpr hnew) fun text other hne hagrees key hkey => ?_⟩
  refine (hagrees key hkey).insert (fun heq => hne ?_) hsame
  rw [← hkey, heq]

theorem ends_of_checkpoint {change : CachedBlockStore J γ → CachedBlockStore J γ}
    (hcache : (change store).blockCache = store.blockCache)
    (hdb : ∀ key, key ≠ StoreKey.backSyncCheckpoint →
      (change store).db.lookup key.value = store.db.lookup key.value) :
    Ends serde Holds (modify change) store (.ok ()) (change store).db := by
  refine ⟨rfl, rfl, hcache.symm ▸ honest.mono h fun text block hagrees key hkey => ?_⟩
  have hanswers := hagrees key hkey
  have hne : key ≠ .backSyncCheckpoint := by
    rintro rfl
    exact hanswers
  exact hanswers.of_lookup (hdb key hne) fun hash old hold =>
    (hdb (.blockByHash hash) nofun).trans hold

end Honest

/-! ## Whole runs -/

/-- The database after the operations in `seen`: the saved blocks, each under its hash. -/
structure Sound (serde : Serde J) (seen : List Op) (db : Table String J) : Prop where
  saved : ∀ block, .saveBlock block ∈ seen →
    db.lookup (StoreKey.blockByHash block.hash).value = some (serde.ofBlock block)
  blocks : ∀ hash value, db.lookup (StoreKey.blockByHash hash).value = some value →
    ∃ block, .saveBlock block ∈ seen ∧ block.hash = hash ∧ value = serde.ofBlock block

/-- Blocks with equal hashes are equal, and a block is saved before it is canonical. -/
structure Op.Fits (seen : List Op) (op : Op) : Prop where
  unique : ∀ block other, op = .saveBlock block → .saveBlock other ∈ seen →
    other.hash = block.hash → other = block
  saved : ∀ block, op = .setCanonicalBlock block → .saveBlock block ∈ seen

section Run

variable {serde : Serde J} {cache : Cache γ} {fresh : γ}
  {Holds : γ → (String → RskBlock → Prop) → Prop} {store : CachedBlockStore J γ} {seen : List Op}
  {op : Op}

theorem Sound.of_lookup {db db' : Table String J} (h : Sound serde seen db)
    (hop : ∀ block, op ≠ .saveBlock block)
    (hdb : ∀ hash, db'.lookup (StoreKey.blockByHash hash).value
      = db.lookup (StoreKey.blockByHash hash).value) : Sound serde (seen ++ [op]) db' := by
  refine ⟨fun block hmem => ?_, fun hash value hlookup => ?_⟩
  · rcases List.mem_append.mp hmem with hseen | hlast
    · rw [hdb]
      exact h.saved block hseen
    · exact absurd (List.mem_singleton.mp hlast).symm (hop block)
  · obtain ⟨block, hseen, hblock⟩ := h.blocks hash value (hdb hash ▸ hlookup)
    exact ⟨block, List.mem_append_left _ hseen, hblock⟩

theorem Sound.saveBlock {db : Table String J} {block : RskBlock} (h : Sound serde seen db)
    (hfits : Op.Fits seen (.saveBlock block)) :
    Sound serde (seen ++ [.saveBlock block]) (next serde db (.saveBlock block)) := by
  refine ⟨fun other hmem => ?_, fun hash value hlookup => ?_⟩
  · rcases List.mem_append.mp hmem with hseen | hlast
    · by_cases heq : other.hash = block.hash
      · rw [hfits.unique block other rfl hseen heq]
        exact AList.lookup_insert _
      · exact (lookup_insert_value fun hkey => heq (StoreKey.blockByHash.inj hkey)).trans
          (h.saved other hseen)
    · cases List.mem_singleton.mp hlast
      exact AList.lookup_insert _
  · by_cases heq : hash = block.hash
    · subst heq
      rw [next, AList.lookup_insert] at hlookup
      cases hlookup
      exact ⟨block, by simp, rfl, rfl⟩
    · rw [next, lookup_insert_value fun hkey => heq (StoreKey.blockByHash.inj hkey)] at hlookup
      obtain ⟨other, hseen, hother⟩ := h.blocks hash value hlookup
      exact ⟨other, List.mem_append_left _ hseen, hother⟩

/-- **One operation behind an honest cache.** It ends as the database says. -/
theorem perform_ends (honest : cache.IsHonest Holds) (hfresh : ∀ P, Holds fresh P)
    (h : Holds store.blockCache (Agrees serde store.db)) (hsound : Sound serde seen store.db)
    (hfits : op.Fits seen) :
    Ends serde Holds (perform serde cache fresh op) store (answer serde store.db op)
      (next serde store.db op) := by
  cases op with
  | getBestBlock => exact ends_context (getBlock_ends h honest .bestBlock fun _ => Iff.rfl)
  | setBestBlock value =>
    exact ends_done (cachedWrite_ends h honest (readBlock_insert_self value) nofun)
  | getBackSyncCheckpoint => exact ends_context (getCheckpoint_ends h)
  | setBackSyncCheckpoint value =>
    exact ends_done (ends_of_checkpoint h honest rfl fun key hne => lookup_insert_value hne)
  | resetBackSyncCheckpoint =>
    refine ends_done (ends_of_checkpoint h honest rfl fun key hne => ?_)
    exact AList.lookup_erase_ne fun heq => hne (StoreKey.value_inj heq)
  | getBlockByHash hash =>
    exact ends_context (getBlock_ends h honest (.blockByHash hash) fun _ => Iff.rfl)
  | saveBlock value =>
    refine ends_done (cachedWrite_ends h honest (readBlock_insert_self value) ?_)
    rintro hash hkey old hold
    obtain ⟨block, hseen, hhash, rfl⟩ := hsound.blocks _ old hold
    rw [hfits.unique value block rfl hseen hhash]
  | getCanonicalBlock height => exact ends_context (getCanonicalBlock_ends h honest)
  | setCanonicalBlock block =>
    -- the block that the height now stands for was saved before
    refine ends_done (cachedWrite_ends h honest ?_ nofun)
    refine readCanonical_eq_some.mpr ⟨_, block.hash, AList.lookup_insert _, serde.toHash_ofText _, ?_⟩
    refine readBlock_eq_some.mpr ⟨serde.ofBlock block, ?_, serde.toBlock_ofBlock _⟩
    have hne : StoreKey.blockByHash block.hash ≠ .blockByNumber block.number := nofun
    exact (lookup_insert_value hne).trans (hsound.saved block (hfits.saved block rfl))
  | reopen => exact ⟨rfl, rfl, hfresh _⟩

theorem sound_next (h : Sound serde seen store.db) (hfits : op.Fits seen) :
    Sound serde (seen ++ [op]) (next serde store.db op) := by
  cases op with
  | saveBlock value => exact h.saveBlock hfits
  | setBestBlock value =>
    refine h.of_lookup nofun fun hash => ?_
    have hne : StoreKey.blockByHash hash ≠ .bestBlock := nofun
    exact lookup_insert_value hne
  | setBackSyncCheckpoint value =>
    refine h.of_lookup nofun fun hash => ?_
    have hne : StoreKey.blockByHash hash ≠ .backSyncCheckpoint := nofun
    exact lookup_insert_value hne
  | resetBackSyncCheckpoint =>
    refine h.of_lookup nofun fun hash => ?_
    have hne : StoreKey.blockByHash hash ≠ .backSyncCheckpoint := nofun
    exact AList.lookup_erase_ne fun heq => hne (StoreKey.value_inj heq)
  | setCanonicalBlock block =>
    refine h.of_lookup nofun fun hash => ?_
    have hne : StoreKey.blockByHash hash ≠ .blockByNumber block.number := nofun
    exact lookup_insert_value hne
  | _ => exact h.of_lookup nofun fun _ => rfl

/-- The results of a sequence of operations on the database alone. -/
def databaseResults (serde : Serde J) (db : Table String J) : List Op → List (Outcome (Option RskBlock))
  | [] => []
  | op :: ops => answer serde db op :: databaseResults serde (next serde db op) ops

/-- **A run behind an honest cache.** The induction is on the operations that are left, with those
before them in `seen`. -/
theorem results_eq_databaseResults (honest : cache.IsHonest Holds) (hfresh : ∀ P, Holds fresh P)
    {ops : List Op} (h : Holds store.blockCache (Agrees serde store.db))
    (hsound : Sound serde seen store.db)
    (hfits : ∀ before op after, ops = before ++ op :: after → op.Fits (seen ++ before)) :
    results serde cache fresh store ops = databaseResults serde store.db ops := by
  induction ops generalizing store seen with
  | nil => rfl
  | cons op ops ih =>
    have hop : op.Fits seen := by
      have hfirst := hfits [] op ops rfl
      rwa [List.append_nil] at hfirst
    have hends := perform_ends honest hfresh h hsound hop
    have hnext := sound_next hsound hop
    have hrest : ∀ before op' after, ops = before ++ op' :: after →
        op'.Fits (seen ++ [op] ++ before) := by
      intro before op' after heq
      have hlater := hfits (op :: before) op' after (by rw [heq, List.cons_append])
      rwa [List.append_assoc]
    unfold Ends wp at hends
    unfold results databaseResults
    cases hperform : perform serde cache fresh op store with
    | ok block store' =>
      rw [hperform] at hends
      obtain ⟨hanswer, hdb, hcache⟩ := hends
      rw [← hdb] at hcache hnext ⊢
      rw [hanswer, ← ih hcache hnext hrest]
    | error e store' =>
      rw [hperform] at hends
      obtain ⟨hanswer, hdb, hcache⟩ := hends
      rw [← hdb] at hcache hnext ⊢
      rw [hanswer, ← ih hcache hnext hrest]

/-- What is asked of a sequence of operations, as a whole. -/
structure Consistent (ops : List Op) : Prop where
  unique : ∀ block ∈ ops.filterMap Op.block?, ∀ other ∈ ops.filterMap Op.block?,
    block.hash = other.hash → block = other
  savedFirst : ∀ before block after, ops = before ++ .setCanonicalBlock block :: after →
    .saveBlock block ∈ before

theorem Consistent.fits {ops before after : List Op} (h : Consistent ops)
    (heq : ops = before ++ op :: after) : op.Fits ([] ++ before) := by
  refine ⟨fun block other hop hother hhash => ?_, fun block hop => ?_⟩
  · refine h.unique other ?_ block ?_ hhash
    · exact List.mem_filterMap.mpr ⟨_, by rw [heq]; exact List.mem_append_left _ hother, rfl⟩
    · exact List.mem_filterMap.mpr ⟨op, by rw [heq]; simp, by rw [hop]; rfl⟩
  · exact h.savedFirst before block after (hop ▸ heq)

theorem sound_nil : Sound serde [] (∅ : Table String J) :=
  ⟨(fun _ hmem => nomatch hmem), (fun _ _ hlookup => nomatch hlookup)⟩

/-- **The cache cannot be noticed.** On a database that was empty at first, and across restarts. -/
theorem cache_transparent (serde : Serde J) {cacheSize : Nat} (hsize : 0 < cacheSize) {ops : List Op}
    (hops : Consistent ops) :
    results serde lruCache (.new cacheSize hsize) ⟨∅, .new cacheSize hsize⟩ ops
      = results serde noCache () ⟨∅, ()⟩ ops := by
  rw [results_eq_databaseResults lruCache_isHonest (fun _ => LruCache.holds_new) LruCache.holds_new
    sound_nil fun _ _ _ => hops.fits]
  rw [results_eq_databaseResults noCache_isHonest (fun _ => trivial) trivial sound_nil
    fun _ _ _ => hops.fits]

end Run

/-- Values that are blocks or texts. -/
def sampleSerde : Serde (RskBlock ⊕ String) where
  ofBlock := .inl
  toBlock := Sum.getLeft?
  ofText := .inr
  toHash value := value.getRight?.bind readHashText
  toBlock_ofBlock _ := rfl
  toHash_ofText hash := by
    rw [Sum.getRight?_inr, Option.bind_some, readHashText_hashText]

/-- A canonical block, read again after it fell out of a cache with room for one. -/
def sampleOps : List Op :=
  [.saveBlock (.plain 1 10 9 5), .setCanonicalBlock (.plain 1 10 9 5), .getBlockByHash 10,
    .getCanonicalBlock 1]

theorem sampleOps_consistent : Consistent sampleOps := by
  refine ⟨by decide, fun before block after heq => ?_⟩
  rcases before with _ | ⟨first, _ | ⟨second, _ | ⟨third, _ | ⟨fourth, rest⟩⟩⟩⟩
  all_goals simp only [sampleOps, List.nil_append, List.cons_append, List.cons.injEq, reduceCtorEq,
    false_and, and_false, List.nil_eq, List.append_eq_nil_iff, Op.setCanonicalBlock.injEq] at heq
  obtain ⟨rfl, rfl, -⟩ := heq
  exact List.mem_singleton_self _

theorem canonical_block_found :
    results sampleSerde lruCache (.new 1 Nat.one_pos) ⟨∅, .new 1 Nat.one_pos⟩ sampleOps
      = results sampleSerde noCache () ⟨∅, ()⟩ sampleOps :=
  cache_transparent sampleSerde Nat.one_pos sampleOps_consistent

example : results sampleSerde noCache () ⟨∅, ()⟩ sampleOps
    = [.ok none, .ok none, .ok (some (.plain 1 10 9 5)), .ok (some (.plain 1 10 9 5))] := by
  decide +kernel

end CachedBlockStore

end UnionBridge.BlockIndexer
