import Kori.Daemon.Config

/-! # The lighting a start replays, channel by channel -/

namespace Kori

/-! ## Adding what is missing -/

section Missing

variable {α κ : Type} [DecidableEq κ] (key : α → κ)

/-- Adds an item unless one of its key is held. -/
def addMissing (held : List α) (item : α) : List α :=
  if held.any fun other => key other = key item then held else held ++ [item]

variable {key}

theorem any_key_iff {held : List α} {item : α} :
    (held.any fun other => key other = key item) = true ↔ key item ∈ held.map key := by
  simp

theorem mem_keys_addMissing {k : κ} (held : List α) (item : α) :
    k ∈ (addMissing key held item).map key ↔ k ∈ held.map key ∨ k = key item := by
  unfold addMissing
  split
  · rename_i hany
    refine ⟨.inl, fun h => h.elim id fun hk => ?_⟩
    rw [hk]
    exact any_key_iff.mp hany
  · rw [List.map_append, List.mem_append, List.map_singleton, List.mem_singleton]

theorem nodup_keys_addMissing (held : List α) (item : α) :
    ((addMissing key held item).map key).Nodup ↔ (held.map key).Nodup := by
  unfold addMissing
  split
  · exact Iff.rfl
  · rename_i hany
    rw [any_key_iff] at hany
    rw [List.map_append, List.map_singleton, List.nodup_append]
    refine ⟨fun h => h.1, fun h => ⟨h, List.pairwise_singleton _ _, ?_⟩⟩
    intro k hk other hother heq
    rw [List.mem_singleton.mp hother] at heq
    exact hany (heq ▸ hk)

theorem mem_keys_foldl_addMissing {k : κ} (items held : List α) :
    k ∈ (items.foldl (addMissing key) held).map key ↔ k ∈ held.map key ∨ k ∈ items.map key := by
  induction items generalizing held with
  | nil => simp
  | cons item items ih => rw [List.foldl_cons, ih, mem_keys_addMissing, List.map_cons, List.mem_cons, or_assoc]

theorem nodup_keys_foldl_addMissing (items held : List α) :
    ((items.foldl (addMissing key) held).map key).Nodup ↔ (held.map key).Nodup := by
  induction items generalizing held with
  | nil => rfl
  | cons item items ih => rw [List.foldl_cons, ih, nodup_keys_addMissing]

theorem mem_foldl_addMissing {item : α} (items held : List α)
    (h : item ∈ items.foldl (addMissing key) held) : item ∈ held ∨ key item ∉ held.map key := by
  induction items generalizing held with
  | nil => exact .inl h
  | cons first items ih =>
    rcases ih _ h with hmem | hnew
    · unfold addMissing at hmem
      split at hmem
      · exact .inl hmem
      · rename_i hany
        rcases List.mem_append.mp hmem with hheld | hfirst
        · exact .inl hheld
        · rw [List.mem_singleton.mp hfirst]
          exact .inr fun hk => hany (any_key_iff.mpr hk)
    · exact .inr fun hk => hnew ((mem_keys_addMissing held first).mpr (.inl hk))

end Missing

namespace Configuration

variable (self : Configuration)

/-- The channels a list of commands names. -/
def channels (commands : List LightingCommand) : List UInt8 := commands.map LightingCommand.channel

/-- Each channel that the active profile or the session names is restored once, and the session's command
wins. -/
structure RestoresOnce (config : Configuration) : Prop where
  once : (channels config.lightingToRestore).Nodup
  covers : ∀ channel, channel ∈ channels config.lightingToRestore ↔
    channel ∈ channels config.activeProfile.lighting ∨ channel ∈ channels config.document.session.lighting
  session : ∀ channel committed, channel ∈ channels config.activeProfile.lighting →
    config.document.session.channel channel = some committed →
      ∀ command ∈ config.lightingToRestore, command.channel = channel → command = committed

/-- The profile's commands with the session's put over them. -/
def overlaid : List LightingCommand :=
  self.activeProfile.lighting.map fun command =>
    (self.document.session.channel command.channel).getD command

theorem lightingToRestore_eq :
    self.lightingToRestore =
      self.document.session.lighting.foldl (addMissing LightingCommand.channel) self.overlaid := rfl

theorem channel_of_session {session : SessionState} {channel : UInt8} {committed : LightingCommand}
    (h : session.channel channel = some committed) : committed.channel = channel :=
  of_decide_eq_true (List.find?_some (p := fun held : LightingCommand => decide (held.channel = channel)) h)

theorem channels_overlaid : channels self.overlaid = channels self.activeProfile.lighting := by
  unfold channels overlaid
  rw [List.map_map]
  refine List.map_congr_left fun command _ => ?_
  change ((self.document.session.channel command.channel).getD command).channel = command.channel
  cases hsession : self.document.session.channel command.channel with
  | none => rfl
  | some committed => exact channel_of_session hsession

theorem mem_overlaid {command committed : LightingCommand} (h : command ∈ self.overlaid)
    (hsession : self.document.session.channel command.channel = some committed) : command = committed := by
  obtain ⟨original, -, rfl⟩ := List.mem_map.mp h
  cases horiginal : self.document.session.channel original.channel with
  | none =>
    rw [horiginal, Option.getD_none] at hsession
    rw [horiginal] at hsession
    cases hsession
  | some found =>
    rw [horiginal, Option.getD_some, channel_of_session horiginal, horiginal] at hsession
    exact Option.some.inj hsession

/-- Nothing more is needed than a profile that names no channel twice, and nothing less will do. -/
theorem restoresOnce_iff : self.RestoresOnce ↔ (channels self.activeProfile.lighting).Nodup := by
  have honce : (channels self.lightingToRestore).Nodup ↔ (channels self.activeProfile.lighting).Nodup := by
    rw [← channels_overlaid, lightingToRestore_eq]
    exact nodup_keys_foldl_addMissing _ _
  refine ⟨fun h => honce.mp h.once, fun h => ⟨honce.mpr h, fun channel => ?_, ?_⟩⟩
  · rw [← channels_overlaid, lightingToRestore_eq]
    exact mem_keys_foldl_addMissing _ _
  · intro channel committed hprofile hsession command hmem hchannel
    rw [← channels_overlaid] at hprofile
    rw [lightingToRestore_eq] at hmem
    subst hchannel
    rcases mem_foldl_addMissing _ _ hmem with hheld | hnew
    · exact self.mem_overlaid hheld hsession
    · exact absurd hprofile hnew

/-- A file whose active profile names the first channel twice. -/
def benchTwice : Configuration :=
  { path := { directory := "/etc/kori", stem := "config", extension := "toml" }
    document :=
      { ConfigDocument.default with
        activeProfile := "Desk"
        profiles := [{ name := "Desk", program := .onboard, device := none, display := none
                       lighting := [⟨1, .off⟩, ⟨1, .fixed ⟨255, 255, 255⟩ .FULL⟩] }] }
    state := .loaded }

/-- Such a file is accepted, and a start replays both commands. -/
theorem channel_named_twice_restored_twice : benchTwice.document.check = .ok () ∧ ¬ benchTwice.RestoresOnce :=
  ⟨by decide, fun h => absurd h.once (by decide)⟩

end Configuration

end Kori
