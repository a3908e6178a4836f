import Dialplan.Build.Options
import Dialplan.Connect.Cache
import Dialplan.Proofs.Json.RoundTrip
import Dialplan.Strategy.SequentialOptions

/-! What is kept as JSON: caches, the options of builds and of sequences, and the demands of
attempts. All are recovered from their texts exactly (`kept_as_json`). -/

namespace Dialplan

open Json

theorem CacheRecord.record_lawful : record.Lawful 0 where
  names := by decide
  fields := by
    simp only [record, List.forall_mem_cons]
    exact ⟨Field.of_lawful Codec.uint64_lawful le_rfl, Field.of_lawful Codec.string_lawful le_rfl,
      Field.of_lawful Codec.uint64_lawful le_rfl, by simp⟩
  commutes := by
    simp only [record, List.pairwise_cons, List.forall_mem_cons]
    refine ⟨⟨?_, ?_, by simp⟩, ⟨?_, by simp⟩, by simp⟩ <;>
      exact Field.of_commutes fun _ _ _ => rfl
  restores cached := by
    simp only [record, List.foldl_cons, List.foldl_nil, Field.copy_of Codec.uint64_lawful,
      Field.copy_of Codec.string_lawful]

/-- Both partitions are read alike. -/
theorem Cache.partition_lawful : (Codec.optional CacheRecord.codec).Lawful 1 :=
  Codec.optional_lawful CacheRecord.record_lawful.codec_lawful fun _ => by
    simp [CacheRecord.codec, Record.codec]

theorem Cache.record_lawful : record.Lawful 1 where
  names := by decide
  fields := by
    simp only [record, List.forall_mem_cons]
    exact ⟨Field.of_lawful partition_lawful le_rfl, Field.of_lawful partition_lawful le_rfl,
      by simp⟩
  commutes := by
    simp only [record, List.pairwise_cons, List.forall_mem_cons]
    refine ⟨⟨?_, by simp⟩, by simp⟩
    exact Field.of_commutes fun _ _ _ => rfl
  restores cache := by
    simp only [record, List.foldl_cons, List.foldl_nil, Field.copy_of partition_lawful]

theorem Context.record_lawful : record.Lawful 0 where
  names := by decide
  fields := by
    simp only [record, List.forall_mem_cons]
    exact ⟨Field.of_lawful Codec.bool_lawful le_rfl, Field.of_lawful Codec.int64_lawful le_rfl,
      by simp⟩
  commutes := by
    simp only [record, List.pairwise_cons, List.forall_mem_cons]
    refine ⟨⟨?_, by simp⟩, by simp⟩
    exact Field.of_commutes fun _ _ _ => rfl
  restores context := by
    simp only [record, List.foldl_cons, List.foldl_nil, Field.copy_of Codec.bool_lawful,
      Field.copy_of Codec.int64_lawful]

theorem SequentialOptions.bound_lawful : (Codec.optional Codec.uint64).Lawful 0 :=
  Codec.optional_lawful Codec.uint64_lawful fun _ => by simp [Codec.uint64, Codec.whole]

theorem SequentialOptions.record_lawful : record.Lawful 0 where
  names := by decide
  fields := by
    simp only [record, List.forall_mem_cons]
    exact ⟨Field.of_lawful Codec.bool_lawful le_rfl, Field.of_lawful bound_lawful le_rfl,
      Field.of_lawful bound_lawful le_rfl, Field.of_lawful Codec.bool_lawful le_rfl, by simp⟩
  commutes := by
    simp only [record, List.pairwise_cons, List.forall_mem_cons]
    refine ⟨⟨?_, ?_, ?_, by simp⟩, ⟨?_, ?_, by simp⟩, ⟨?_, by simp⟩, by simp⟩ <;>
      exact Field.of_commutes fun _ _ _ => rfl
  restores options := by
    simp only [record, List.foldl_cons, List.foldl_nil, Field.copy_of Codec.bool_lawful,
      Field.copy_of bound_lawful]

theorem BuildOptions.key_lawful : (Codec.optional Codec.string).Lawful 0 :=
  Codec.optional_lawful Codec.string_lawful fun _ => by simp [Codec.string]

theorem BuildOptions.transports_lawful : (Codec.optional (.list Codec.string)).Lawful 1 :=
  Codec.optional_lawful (Codec.list_lawful Codec.string_lawful) fun _ => by simp [Codec.list]

theorem BuildOptions.record_lawful : record.Lawful 1 where
  names := by decide
  fields := by
    simp only [record, List.forall_mem_cons]
    exact ⟨Field.of_lawful Codec.bool_lawful (Nat.zero_le 1),
      Field.of_lawful key_lawful (Nat.zero_le 1), Field.of_lawful transports_lawful le_rfl,
      Field.of_lawful transports_lawful le_rfl, by simp⟩
  commutes := by
    simp only [record, List.pairwise_cons, List.forall_mem_cons]
    refine ⟨⟨?_, ?_, ?_, by simp⟩, ⟨?_, ?_, by simp⟩, ⟨?_, by simp⟩, by simp⟩ <;>
      exact Field.of_commutes fun _ _ _ => rfl
  restores options := by
    simp only [record, List.foldl_cons, List.foldl_nil, Field.copy_of Codec.bool_lawful,
      Field.copy_of key_lawful, Field.copy_of transports_lawful]

/-- The object of a record in a partition may be rearranged too. -/
theorem Cache.allows_alike : record.Allows CacheRecord.record.Alike := by
  intro v w halike hv
  cases halike with
  | same => exact ⟨hv, fun _ _ => rfl⟩
  | @rearranged fields fields' h proper =>
    refine ⟨proper, ?_⟩
    have hcached := CacheRecord.record_lawful.ofValue_rearranged (Record.allows_eq _)
      (.of_proper hv) h
    have hpartition {ρ : Type} (name : String) (get : ρ → Option CacheRecord)
        (set : Option CacheRecord → ρ → ρ) :
        ((Field.of name false (.optional CacheRecord.codec) get set).ofValue
          (.object fields)).toOption =
        ((Field.of name false (.optional CacheRecord.codec) get set).ofValue
          (.object fields')).toOption := by
      change (set <$> some <$> CacheRecord.codec.ofValue (.object fields)).toOption =
        (set <$> some <$> CacheRecord.codec.ofValue (.object fields')).toOption
      simp only [toOption_map]
      exact congrArg (fun read => (read.map some).map set) hcached.symm
    simp only [record, List.forall_mem_cons]
    exact ⟨hpartition _ _ _, hpartition _ _ _, by simp⟩

/-- Whatever a cache holds, what options a build or a sequence has and what an attempt demands, it
is recovered from its text. Its object decodes to the same, as a value and from a text, with its
fields in any other order and any unknown ones among them, and so do the objects of the records in
a cache. Texts of different values differ, and what has been read and written once stays as it is
when it is read and written again. -/
theorem kept_as_json :
    (∀ cache : Cache, Cache.parse cache.text = .ok cache) ∧
    (∀ options, BuildOptions.parse (BuildOptions.codec.print options) = .ok options) ∧
    Cache.record.Persistent CacheRecord.record.Alike ∧
    CacheRecord.record.Persistent (· = ·) ∧
    BuildOptions.record.Persistent (· = ·) ∧
    Context.record.Persistent (· = ·) ∧
    SequentialOptions.record.Persistent (· = ·) := by
  have hcache := Cache.record_lawful.persistent (by decide) Cache.allows_alike
  have hbuild := BuildOptions.record_lawful.persistent (by decide) (Record.allows_eq _)
  refine ⟨fun cache => ?_, fun options => ?_, hcache,
    CacheRecord.record_lawful.persistent (by decide) (Record.allows_eq _), hbuild,
    Context.record_lawful.persistent (by decide) (Record.allows_eq _),
    SequentialOptions.record_lawful.persistent (by decide) (Record.allows_eq _)⟩
  · have hread : Cache.codec.parse cache.text = .ok cache := hcache.recovered cache
    rw [Cache.parse, hread]
  · have hread : BuildOptions.codec.parse (BuildOptions.codec.print options) = .ok options :=
      hbuild.recovered options
    rw [BuildOptions.parse, hread]

-- a field that nobody knows, one that is left out, and the default of a third
example : SequentialOptions.codec.parse
    "\x7b\"later\":[1.5,null],\"timeout\":2000,\"loop\":true\x7d" =
      .ok ⟨true, some 2000, none, true⟩ := by
  cbv

end Dialplan
