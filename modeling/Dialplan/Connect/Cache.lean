import Dialplan.Duration
import Dialplan.Error
import Dialplan.Json.Record

/-! The transport cache: for encrypted and for plain connections, which transport
connected last, when, and how long it took. -/

namespace Dialplan

structure CacheRecord where
  /-- When it was written, in milliseconds since the Unix epoch. -/
  timestamp : UInt64
  /-- The name of the transport definition. -/
  transport : String
  /-- How long the connection took, in milliseconds. -/
  latency : UInt64
deriving DecidableEq

namespace CacheRecord

/-- The moment up to which a record is fresh, in 64-bit milliseconds: the sum stops at the
greatest word. -/
def freshUntil (cached : CacheRecord) (ttl : Duration) : Nat :=
  min (cached.timestamp.toNat + ttl.millisWord.toNat) (UInt64.size - 1)

/-- Is the record at most `ttl` old? -/
def isFresh (cached : CacheRecord) (ttl : Duration) (now : UInt64) : Bool :=
  now.toNat ≤ cached.freshUntil ttl

/-- The recorded latency. -/
def connectTime (cached : CacheRecord) : Duration := Duration.ofMillis cached.latency.toNat

def record : Json.Record CacheRecord where
  title := "CacheRecord"
  fields := [
    .of "timestamp" true .uint64 timestamp fun ms r => { r with timestamp := ms },
    .of "transport" true .string transport fun name r => { r with transport := name },
    .of "latency" true .uint64 latency fun ms r => { r with latency := ms }]
  blank := ⟨0, "", 0⟩
  lenient := false

def codec : Json.Codec CacheRecord := record.codec

end CacheRecord

/-- At most one record for encrypted connections and one for plain ones. -/
structure Cache where
  tls : Option CacheRecord
  nonTls : Option CacheRecord
deriving DecidableEq

namespace Cache

def empty : Cache := ⟨none, none⟩

def fetch (cache : Cache) (encrypted : Bool) : Option CacheRecord :=
  if encrypted then cache.tls else cache.nonTls

/-- Sets or clears one partition. -/
def put (cache : Cache) (encrypted : Bool) (cached : Option CacheRecord) : Cache :=
  if encrypted then { cache with tls := cached } else { cache with nonTls := cached }

def storeRecord (cache : Cache) (encrypted : Bool) (cached : CacheRecord) : Cache :=
  cache.put encrypted (some cached)

/-- Records a connection made now. -/
def store (cache : Cache) (encrypted : Bool) (transport : String) (took : Duration)
    (now : UInt64) : Cache :=
  cache.storeRecord encrypted ⟨now, transport, took.millisWord⟩

def flush (cache : Cache) (encrypted : Bool) : Cache := cache.put encrypted none

def record : Json.Record Cache where
  title := "Partitions"
  fields := [
    .of "tls" false (.optional CacheRecord.codec) tls fun r c => { c with tls := r },
    .of "nonTls" false (.optional CacheRecord.codec) nonTls fun r c => { c with nonTls := r }]
  blank := empty
  lenient := false

def codec : Json.Codec Cache := record.codec

/-- Reads a cache from JSON text. -/
def parse (text : String) : Except Error Cache :=
  match codec.parse text with
  | .ok cache => .ok cache
  | .error fault => .error (.json fault)

/-- The JSON text of a cache. -/
def text (cache : Cache) : String := codec.print cache

@[simp] theorem fetch_put_self (cache : Cache) (encrypted : Bool) (cached : Option CacheRecord) :
    (cache.put encrypted cached).fetch encrypted = cached := by
  cases encrypted <;> rfl

@[simp] theorem fetch_put_other (cache : Cache) (encrypted : Bool)
    (cached : Option CacheRecord) :
    (cache.put encrypted cached).fetch (!encrypted) = cache.fetch (!encrypted) := by
  cases encrypted <;> rfl

end Cache

end Dialplan
