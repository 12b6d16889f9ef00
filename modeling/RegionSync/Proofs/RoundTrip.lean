import RegionSync.Interchange
import RegionSync.Proofs.Json.Records

set_option autoImplicit false

/-! # Every value is read back from its JSON form

Each codec of the project takes what it writes for the value that it wrote, so a document with a
written value and nothing else has that value. For a record this comes down to its members, each
with its own codec; for a value that goes by a name, to the names being different.
-/

namespace RegionSync

open Json

/-! ## Fields -/

theorem PropField.faithful_codec : PropField.codec.Faithful := fun _ =>
  Schema.takes_write (by decide) (.of faithful_string (.of faithful_string .nil))

theorem StateField.faithful_codec : StateField.codec.Faithful := fun _ =>
  Schema.takes_write (by decide) (.of faithful_string (.of faithful_string .nil))

/-- The line of an advisory is written as an integer of 64 bits. -/
theorem Advisory.takes_codec (line : UInt64) (prop : PropField) :
    Advisory.codec.Takes (Advisory.codec.write ⟨line.toNat, prop⟩) ⟨line.toNat, prop⟩ := by
  have hrebuilds : Rebuilds ⟨line.toNat, prop⟩ Advisory.schema.members Advisory.schema.start
      ⟨line.toNat.toUInt64.toNat, prop⟩ :=
    .of faithful_unsigned (.of PropField.faithful_codec .nil)
  have hsameLine : line.toNat.toUInt64 = line := UInt64.ofNat_toNat
  rw [hsameLine] at hrebuilds
  exact Schema.takes_write (by decide) hrebuilds

theorem TypeKind.faithful_codec : TypeKind.codec.Faithful := by
  refine faithful_named (fun kind => ?_) (by decide)
  cases kind <;> decide

/-! ## Stages, outcomes and statistics -/

theorem Stage.faithful_codec : Stage.codec.Faithful := by
  refine faithful_named ?_ (by decide)
  rintro (_ | region | region | _)
  · decide
  · cases region <;> decide
  · cases region <;> decide
  · decide

theorem SkipReason.faithful_codec : SkipReason.codec.Faithful := by
  refine faithful_named (fun reason => ?_) (by decide)
  cases reason <;> decide

theorem Outcome.faithful_codec : Outcome.codec.Faithful := by
  intro outcome gap rest hblank _
  cases outcome with
  | skipped reason =>
      have hspelled : Outcome.codec.write (.skipped reason) ++ rest =
          '{' :: (quote "skipped" ++ ':' :: (SkipReason.codec.write reason ++ '}' :: rest)) := by
        show "\x7b\"skipped\":".toList ++ SkipReason.codec.write reason ++ "\x7d".toList ++ rest = _
        simp [quote, escapeChar]
      rw [hspelled]
      exact Variant.readAny_carrying rfl (SkipReason.faithful_codec reason) hblank rest
  | unchanged => exact Variant.readAny_name rfl rfl (isString_quote "unchanged") hblank rest
  | updated => exact Variant.readAny_name rfl rfl (isString_quote "rewritten") hblank rest
  | stale => exact Variant.readAny_name rfl rfl (isString_quote "stale") hblank rest

theorem Stats.faithful_codec : Stats.codec.Faithful := by
  intro stats
  refine Schema.takes_write (by decide) ?_
  iterate 7 refine .of faithful_unsigned ?_
  exact .nil

/-! ## Settings -/

theorem Protocol.faithful_codec : Protocol.codec.Faithful := by
  intro protocol
  refine Schema.takes_write (by decide) ?_
  iterate 5 refine .of faithful_string ?_
  exact .nil

theorem WorkerConfig.faithful_codec : WorkerConfig.codec.Faithful := fun _ =>
  Schema.takes_write (by decide) (.of faithful_unsigned (.of faithful_unsigned .nil))

theorem WatchConfig.faithful_codec : WatchConfig.codec.Faithful := fun _ =>
  Schema.takes_write (by decide) (.of faithful_bool .nil)

theorem Config.faithful_codec : Config.codec.Faithful := fun _ =>
  Schema.takes_write (by decide)
    (.of faithful_string (.of Protocol.faithful_codec
      (.of WorkerConfig.faithful_codec (.of WatchConfig.faithful_codec .nil))))

/-! ## All values -/

/-- **Every value is the value of its JSON form:** fields, kinds, stages, outcomes, statistics and
settings, and every advisory whose line is an integer of 64 bits. -/
theorem every_value_is_read_back :
    PropField.codec.RoundTrips ∧ StateField.codec.RoundTrips
    ∧ (∀ (line : UInt64) (prop : PropField),
        Advisory.codec.decode (Advisory.codec.encode ⟨line.toNat, prop⟩) = .ok ⟨line.toNat, prop⟩)
    ∧ TypeKind.codec.RoundTrips ∧ Stage.codec.RoundTrips ∧ SkipReason.codec.RoundTrips
    ∧ Outcome.codec.RoundTrips ∧ Stats.codec.RoundTrips ∧ Protocol.codec.RoundTrips
    ∧ WorkerConfig.codec.RoundTrips ∧ WatchConfig.codec.RoundTrips ∧ Config.codec.RoundTrips :=
  ⟨PropField.faithful_codec.roundTrips, StateField.faithful_codec.roundTrips,
    fun line prop => (Advisory.takes_codec line prop).decode_encode,
    TypeKind.faithful_codec.roundTrips, Stage.faithful_codec.roundTrips,
    SkipReason.faithful_codec.roundTrips, Outcome.faithful_codec.roundTrips,
    Stats.faithful_codec.roundTrips, Protocol.faithful_codec.roundTrips,
    WorkerConfig.faithful_codec.roundTrips, WatchConfig.faithful_codec.roundTrips,
    Config.faithful_codec.roundTrips⟩

end RegionSync
