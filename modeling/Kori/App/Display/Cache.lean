import Kori.App.Display.Preview
import Kori.Faulty.Turns
import Kori.Renderer.Packing

/-! # The preview never shows a picture of something else -/

open Faulty (ok_of_bind SamePath)

namespace Kori

namespace Preview

variable {Image Png : Type} {compiler : Compiler Image Png} {preset other : DisplayPreset} {panel geometry : LcdPanel}
  {telemetry later : Option TelemetrySnapshot}

/-! ## What a picture is made of -/

/-- A preset an editor built. -/
structure Built (preset : DisplayPreset) : Prop where
  valid : preset.validate = .ok ()
  image : preset.mode.usesImage = false → preset.image = none

theorem built_default : Built .defaultInfographic := ⟨rfl, fun _ => rfl⟩

theorem built_of_preset {editor : DisplayEditor} (h : editor.preset = .ok preset) : Built preset := by
  unfold DisplayEditor.preset at h
  obtain ⟨readingOne, -, h⟩ := ok_of_bind h
  obtain ⟨fadeOne, -, h⟩ := ok_of_bind h
  obtain ⟨textOne, -, h⟩ := ok_of_bind h
  obtain ⟨readingTwo, -, h⟩ := ok_of_bind h
  obtain ⟨fadeTwo, -, h⟩ := ok_of_bind h
  obtain ⟨textTwo, -, h⟩ := ok_of_bind h
  obtain ⟨background, -, h⟩ := ok_of_bind h
  obtain ⟨brightness, -, h⟩ := ok_of_bind h
  obtain ⟨⟨⟩, hvalid, h⟩ := ok_of_bind h
  cases h
  refine ⟨hvalid, fun hmode => ?_⟩
  have hmode : editor.mode.usesImage = false := hmode
  change editor.image = none
  unfold DisplayEditor.image
  rw [if_pos (by simp [hmode])]

theorem renderImageFrames_respelled {held path : String} {rendered : List (Framebuffer × Nat)} (hbuilt : Built other)
    (hheld : PictureCodec.path preset = .ok held) (hpath : PictureCodec.path other = .ok path)
    (hopens : compiler.codec.openFile held = compiler.codec.openFile path)
    (horientation : preset.orientation = other.orientation) (hbackground : preset.background = other.background)
    (hwidth : panel.width = geometry.width) (hheight : panel.height = geometry.height)
    (h : compiler.artist.renderImageFrames preset panel = some (.ok rendered)) :
    compiler.artist.renderImageFrames other geometry = some (.ok rendered) := by
  have hlayout : layoutSize panel other.orientation = layoutSize geometry other.orientation := by
    unfold layoutSize
    rw [hwidth, hheight]
  unfold Artist.renderImageFrames at h ⊢
  rw [horientation, hbackground, hlayout] at h
  rw [hbuilt.valid]
  cases hvalid : preset.validate with
  | error error =>
    rw [hvalid] at h
    cases h
  | ok =>
    rw [hvalid] at h
    cases hsize : layoutSize geometry other.orientation with
    | error error =>
      rw [hsize] at h
      cases h
    | ok size =>
      rw [hsize] at h
      cases himages : compiler.artist.frames preset with
      | error error =>
        rw [himages] at h
        cases h
      | ok images =>
        have hframes : compiler.artist.frames other = .ok images :=
          PictureCodec.frames_respelled hheld hpath hopens himages
        rw [himages] at h
        rw [hframes]
        exact h

theorem render_congr {artist : Artist Image} {samples : MetricSample × MetricSample}
    (hwidth : panel.width = geometry.width) (hheight : panel.height = geometry.height) :
    artist.render preset samples panel = artist.render preset samples geometry := by
  unfold Artist.render layoutSize
  rw [hwidth, hheight]

theorem Built.path (h : Built preset) (hmode : preset.mode.usesImage = true) :
    ∃ path, preset.image = some path ∧ PictureCodec.path preset = .ok path := by
  cases himage : preset.image with
  | none =>
    have hvalid := h.valid
    unfold DisplayPreset.validate at hvalid
    rw [if_neg (by simp [hmode]), himage] at hvalid
    cases hvalid
  | some path =>
    refine ⟨path, rfl, ?_⟩
    unfold PictureCodec.path
    rw [himage, hmode]
    rfl

theorem compile_respelled {picture : Picture Png} (hbuilt : Built preset) (hother : Built other)
    (hsame : (Identity.of preset panel telemetry).Same (.of other geometry later))
    (halike : ∀ held path, preset.image = some held → other.image = some path → SamePath held path →
      compiler.codec.openFile held = compiler.codec.openFile path)
    (h : compile compiler preset panel (.of preset panel telemetry) = some (.ok picture)) :
    ∃ fresh, compile compiler other geometry (.of other geometry later) = some (.ok fresh) ∧
      picture.frames = fresh.frames := by
  obtain ⟨hpanel, hsource⟩ := hsame
  obtain ⟨hwidth, hheight⟩ := Prod.mk.inj hpanel
  unfold Identity.of at hsource h ⊢
  dsimp only at hsource h ⊢
  cases hmode : preset.mode.usesImage with
  | true =>
    cases hmode' : other.mode.usesImage with
    | true =>
      rw [hmode, hmode', if_pos rfl, if_pos rfl] at hsource
      rw [hmode, if_pos rfl] at h
      rw [if_pos rfl]
      obtain ⟨himage, horientation, hbackground⟩ := hsource
      obtain ⟨held, hheld, hpath⟩ := hbuilt.path hmode
      obtain ⟨path, hpath', hread⟩ := hother.path hmode'
      rw [hheld, hpath'] at himage
      have hopens := halike held path hheld hpath' (Option.some.inj himage)
      unfold compile at h ⊢
      dsimp only at h ⊢
      obtain ⟨rendered, hrendered, h⟩ := Option.map_eq_some_iff.mp h
      obtain ⟨frames, hframes, hmapped⟩ := ok_of_bind h
      obtain ⟨film, hfilm, hfilled⟩ := ok_of_bind hmapped
      subst hframes
      rw [renderImageFrames_respelled hother hpath hread hopens horientation hbackground hwidth hheight hrendered]
      cases hfilled
      simp only [Option.map_some, bind, Except.bind] at hfilm ⊢
      rw [hfilm]
      exact ⟨_, rfl, by rfl⟩
    | false =>
      rw [hmode, hmode', if_pos rfl, if_neg (by simp)] at hsource
      exact hsource.elim
  | false =>
    cases hmode' : other.mode.usesImage with
    | true =>
      rw [hmode, hmode', if_neg (by simp), if_pos rfl] at hsource
      exact hsource.elim
    | false =>
      rw [hmode, hmode', if_neg (by simp), if_neg (by simp)] at hsource
      rw [hmode, if_neg (by simp)] at h
      rw [if_neg (by simp)]
      -- Neither of the two names a file, so they are one preset.
      obtain ⟨⟨-, hpreset⟩, hsamples⟩ := hsource
      have hsame : preset = other := by
        have himage := hbuilt.image hmode
        have himage' := hother.image hmode'
        cases preset
        cases other
        cases himage
        cases himage'
        exact hpreset
      subst hsame
      unfold compile at h ⊢
      dsimp only at h ⊢
      rw [← render_congr hwidth hheight, ← hsamples]
      obtain ⟨rendered, hrendered, h⟩ := Option.map_eq_some_iff.mp h
      obtain ⟨frame, hframe, hencoded⟩ := ok_of_bind h
      obtain ⟨png, hpng, hfilled⟩ := ok_of_bind hencoded
      subst hframe
      rw [hrendered]
      cases hfilled
      simp only [Option.map_some, bind, Except.bind]
      rw [hpng]
      exact ⟨_, rfl, by rfl⟩

theorem compile_total (preset : DisplayPreset) (panel : LcdPanel) (identity : Identity) :
    ∃ result, compile compiler preset panel identity = some result := by
  unfold compile
  split
  · rename_i samples hsource
    obtain ⟨rendered, hrendered, -⟩ := render_fits compiler.artist preset samples panel
    exact ⟨_, by rw [hrendered, Option.map_some]⟩
  · obtain ⟨rendered, hrendered, -⟩ := renderImageFrames_fit compiler.artist preset panel
    exact ⟨_, by rw [hrendered, Option.map_some]⟩

theorem compile_ok {identity : Identity} {picture : Picture Png}
    (h : compile compiler preset panel identity = some (.ok picture)) :
    picture.identity = some identity ∧ picture.rewound = picture := by
  unfold compile at h
  split at h
  · obtain ⟨rendered, -, h⟩ := Option.map_eq_some_iff.mp h
    obtain ⟨frame, -, h⟩ := ok_of_bind h
    obtain ⟨png, -, h⟩ := ok_of_bind h
    rw [← Except.ok.inj h]
    exact ⟨rfl, rfl⟩
  · obtain ⟨rendered, -, h⟩ := Option.map_eq_some_iff.mp h
    obtain ⟨frames, -, h⟩ := ok_of_bind h
    obtain ⟨film, -, h⟩ := ok_of_bind h
    rw [← Except.ok.inj h]
    exact ⟨rfl, rfl⟩

namespace Picture

theorem advance_film (identity : Identity) (frames : List (Png × Nat)) (cursor : Nat) :
    ∃ next, (film identity frames cursor).advance.2 = film identity frames next := by
  have hadvance : (film identity frames cursor).advance = if 1 < frames.length then
      (true, film identity frames ((cursor + 1) % frames.length)) else (false, film identity frames cursor) := rfl
  rw [hadvance]
  split
  · exact ⟨_, rfl⟩
  · exact ⟨_, rfl⟩

theorem identity_advance (picture : Picture Png) : picture.advance.2.identity = picture.identity := by
  cases picture with
  | none => rfl
  | still => rfl
  | film identity frames cursor =>
    obtain ⟨next, hnext⟩ := advance_film identity frames cursor
    rw [hnext]
    rfl

theorem frames_rewound (picture : Picture Png) : picture.rewound.frames = picture.frames := by cases picture <;> rfl

theorem rewound_advance (picture : Picture Png) : picture.advance.2.rewound = picture.rewound := by
  cases picture with
  | none => rfl
  | still => rfl
  | film identity frames cursor =>
    obtain ⟨next, hnext⟩ := advance_film identity frames cursor
    rw [hnext]
    rfl

end Picture

end Preview

namespace DisplayScreen

open Preview

variable {Image Png : Type} {compiler : Compiler Image Png} {screen : DisplayScreen Png}

/-- A picture that is held is what its identity compiles to, up to the frame it is on. -/
structure Sound (compiler : Compiler Image Png) (screen : DisplayScreen Png) : Prop where
  built : Built screen.lastValid
  compiled : ∀ identity, screen.picture.identity = some identity → screen.pictureError = none ∧
    ∃ preset panel telemetry, Built preset ∧ identity = Identity.of preset panel telemetry ∧
      compile compiler preset panel identity = some (.ok screen.picture.rewound)

/-- The screen shows what a compile came to: its frames and delays, or no picture and its error. -/
def Shows (fresh : Except DisplayError (Picture Png)) (screen : DisplayScreen Png) : Prop :=
  match fresh with
  | .ok picture => screen.picture.frames = picture.frames ∧ screen.pictureError = none
  | .error error => screen.picture = .none ∧ screen.pictureError = some error

/-- A film held under another spelling of the screen's path: the files behind the two open alike. -/
def OpensAlike (compiler : Compiler Image Png) (screen : DisplayScreen Png) : Prop :=
  ∀ panel held orientation background path,
    screen.picture.identity = some ⟨panel, .image (some held) orientation background⟩ →
    screen.lastValid.image = some path → SamePath held path →
    compiler.codec.openFile held = compiler.codec.openFile path

theorem sound_of_none (hbuilt : Built screen.lastValid) (h : screen.picture = .none) : Sound compiler screen := by
  refine ⟨hbuilt, fun identity hidentity => ?_⟩
  rw [h] at hidentity
  cases hidentity

theorem sound_default : Sound compiler (default : DisplayScreen Png) := by
  refine sound_of_none ?_ rfl
  unfold default
  dsimp only
  split
  · rename_i hpreset
    exact built_of_preset hpreset
  · exact built_default

/-- What one synchronisation with a panel does. -/
structure Synced (compiler : Compiler Image Png) (panel : LcdPanel) (telemetry : Option TelemetrySnapshot)
    (screen after : DisplayScreen Png) (replaced : Bool) : Prop where
  shows : ∃ fresh, compile compiler screen.lastValid panel (.of screen.lastValid panel telemetry) = some fresh ∧
    Shows fresh after
  lastValid : after.lastValid = screen.lastValid
  kept : replaced = false → after = screen

theorem Sound.shows {panel : LcdPanel} {telemetry : Option TelemetrySnapshot} (h : Sound compiler screen)
    (hopens : OpensAlike compiler screen)
    (his : screen.picture.is (.of screen.lastValid panel telemetry) = true) :
    ∃ fresh, compile compiler screen.lastValid panel (.of screen.lastValid panel telemetry) = some fresh ∧
      Shows fresh screen := by
  unfold Picture.is at his
  obtain ⟨identity, hidentity, hsame⟩ := (Option.any_eq_true ..).mp his
  obtain ⟨herror, preset, geometry, earlier, hbuilt, rfl, hcompiled⟩ := h.compiled identity hidentity
  have halike : ∀ held path, preset.image = some held → screen.lastValid.image = some path → SamePath held path →
      compiler.codec.openFile held = compiler.codec.openFile path := by
    intro held path hheld hpath hspelled
    cases hmode : preset.mode.usesImage with
    | false =>
      rw [hbuilt.image hmode] at hheld
      cases hheld
    | true =>
      refine hopens (geometry.width, geometry.height) held preset.orientation preset.background path ?_ hpath hspelled
      rw [hidentity]
      unfold Identity.of
      rw [hmode, if_pos rfl, hheld]
  obtain ⟨fresh, hfresh, hframes⟩ :=
    compile_respelled hbuilt h.built (of_decide_eq_true hsame) halike hcompiled
  exact ⟨.ok fresh, hfresh, screen.picture.frames_rewound ▸ hframes, herror⟩

theorem syncPicture_spec {panel : LcdPanel} (h : Sound compiler screen) (hwidth : 0 < panel.width)
    (hheight : 0 < panel.height) (telemetry : Option TelemetrySnapshot) (compiled : Nat) : ∃ replaced after,
      screen.syncPicture compiler (some panel) telemetry compiled =
        some ((replaced, after), if replaced then compiled + 1 else compiled) ∧
      after.lastValid = screen.lastValid ∧ (replaced = false → after = screen) ∧ Sound compiler after ∧
      (OpensAlike compiler screen → Synced compiler panel telemetry screen after replaced) := by
  have hpanel : (some panel).filter (fun panel => 0 < panel.width ∧ 0 < panel.height) = some panel := by
    simp [hwidth, hheight]
  obtain ⟨fresh, hfresh⟩ := @compile_total _ _ compiler screen.lastValid panel (.of screen.lastValid panel telemetry)
  unfold syncPicture
  rw [hpanel]
  dsimp only
  split
  · rename_i his
    exact ⟨false, screen, rfl, rfl, fun _ => rfl, h, fun hopens => ⟨h.shows hopens his, rfl, fun _ => rfl⟩⟩
  · rw [hfresh, Option.map_some]
    cases fresh with
    | ok picture =>
      obtain ⟨hidentity, hrewound⟩ := compile_ok hfresh
      refine ⟨true, _, rfl, rfl, by simp, ⟨h.built, fun identity hheld => ⟨rfl, ?_⟩⟩,
        fun _ => ⟨⟨_, hfresh, rfl, rfl⟩, rfl, by simp⟩⟩
      obtain rfl := Option.some.inj (hidentity.symm.trans hheld)
      exact ⟨screen.lastValid, panel, telemetry, h.built, rfl, by rw [hfresh, hrewound]⟩
    | error error =>
      exact ⟨true, _, rfl, rfl, by simp, sound_of_none h.built rfl, fun _ => ⟨⟨_, hfresh, rfl, rfl⟩, rfl, by simp⟩⟩

theorem perform_sound (h : Sound compiler screen) (act : Act) (compiled : Nat) : ∃ after compiled',
    screen.perform compiler act compiled = some (after, compiled') ∧ Sound compiler after := by
  cases act with
  | edit edit =>
    refine ⟨_, _, rfl, ?_, h.compiled⟩
    unfold DisplayScreen.edit
    dsimp only
    split
    · rename_i hpreset
      exact built_of_preset hpreset
    · exact h.built
  | nextFilmGeneration => exact ⟨_, _, rfl, h.built, h.compiled⟩
  | advanceFilm =>
    refine ⟨_, _, rfl, h.built, fun identity hidentity => ?_⟩
    unfold advanceFilm at hidentity ⊢
    dsimp only at hidentity ⊢
    rw [Picture.identity_advance] at hidentity
    rw [Picture.rewound_advance]
    exact h.compiled identity hidentity
  | syncPicture panel telemetry =>
    unfold perform
    dsimp only
    cases hpanel : panel.filter fun panel => 0 < panel.width ∧ 0 < panel.height with
    | none =>
      unfold syncPicture
      rw [hpanel]
      exact ⟨_, _, rfl, sound_of_none h.built rfl⟩
    | some geometry =>
      obtain ⟨rfl, hsize⟩ := Option.filter_eq_some_iff.mp hpanel
      obtain ⟨hwidth, hheight⟩ := of_decide_eq_true hsize
      obtain ⟨replaced, after, hsynced, -, -, hafter, -⟩ := syncPicture_spec h hwidth hheight telemetry compiled
      rw [hsynced]
      exact ⟨_, _, rfl, hafter⟩

theorem run_sound (acts : List Act) (h : Sound compiler screen) (compiled : Nat) : ∃ after compiled',
    run compiler acts screen compiled = some (after, compiled') ∧ Sound compiler after := by
  induction acts generalizing screen compiled with
  | nil => exact ⟨screen, compiled, rfl, h⟩
  | cons act rest ih =>
    obtain ⟨performed, ran, hperform, hperformed⟩ := perform_sound h act compiled
    unfold run
    rw [hperform]
    exact ih hperformed ran

/-- After any run, a synchronisation tells a compile it ran from one it did not need, and then keeps the film
where it is. It shows the last valid preset on that panel at those readings, unless a film is held under another
spelling of the path and the two do not open alike. -/
theorem preview_shows_last_valid (compiler : Compiler Image Png) (acts : List Act) :
    ∃ screen compiled, run compiler acts default 0 = some (screen, compiled) ∧
      ∀ (panel : LcdPanel) telemetry, 0 < panel.width → 0 < panel.height → ∃ replaced after,
        screen.syncPicture compiler (some panel) telemetry compiled =
          some ((replaced, after), if replaced then compiled + 1 else compiled) ∧
        after.lastValid = screen.lastValid ∧ (replaced = false → after = screen) ∧
        (OpensAlike compiler screen → Synced compiler panel telemetry screen after replaced) := by
  obtain ⟨screen, compiled, hrun, hsound⟩ := run_sound acts (@sound_default _ _ compiler) 0
  refine ⟨screen, compiled, hrun, fun panel telemetry hwidth hheight => ?_⟩
  obtain ⟨replaced, after, hsynced, hlast, hkept, -, hspec⟩ := syncPicture_spec hsound hwidth hheight telemetry compiled
  exact ⟨replaced, after, hsynced, hlast, hkept, hspec⟩

/-- A film of one frame, which opens at two spellings of its path and at no other. -/
def benchCompiler : Compiler Unit Framebuffer where
  codec :=
    { openFile := fun path =>
        if path = "/home/a/loop.gif" ∨ path = "/home/a//loop.gif" then
          .ok { gif := true, still := .ok ((1, 1), .ok ()), animation := .ok ((1, 1), [.ok ((), 100000000)]) }
        else .error "Not a directory (os error 20)" }
  draws :=
    { still := fun _ => .error .imagePathMissing, frames := fun _ => .error .imagePathMissing
      draw := fun _ _ => [], infographic := fun _ _ _ => [], single := fun _ _ _ => [] }
  toPng := .ok

/-- One pixel. -/
def benchGlass : LcdPanel :=
  { width := 1, height := 1, shape := .square, pixelFormat := "RGB565 big-endian", frameBytes := 2
    bulkEndpoint := 2, bulkInterface := 0 }

def naming (path : String) : Act := .edit fun editor => { editor with mode := .image, imagePath := path }

/-- The film of one path, once the screen names another spelling of it. -/
def respelled (path : String) : List Act :=
  [naming "/home/a/loop.gif", .syncPicture (some benchGlass) none, naming path]

/-- A doubled slash keeps the film, which is the one the path opens to. -/
theorem preview_shows_respelled : ∃ screen, run benchCompiler (respelled "/home/a//loop.gif") default 0 = some (screen, 1) ∧
    ∃ replaced after, Synced benchCompiler benchGlass none screen after replaced := by
  obtain ⟨screen, compiled, hrun, hsynced⟩ := preview_shows_last_valid benchCompiler (respelled "/home/a//loop.gif")
  cases hrun
  obtain ⟨replaced, after, -, -, -, hshown⟩ := hsynced benchGlass none (by decide) (by decide)
  refine ⟨_, rfl, replaced, after, hshown ?_⟩
  intro panel held orientation background path hidentity hpath _
  cases hidentity
  cases hpath
  rfl

/-- A slash at the end of the path names no file any more, and the film stays. -/
theorem film_of_no_file_shown : ∃ screen, run benchCompiler (respelled "/home/a/loop.gif/") default 0 = some (screen, 1) ∧
    screen.syncPicture benchCompiler (some benchGlass) none 1 = some ((false, screen), 1) ∧
    compile benchCompiler screen.lastValid benchGlass (.of screen.lastValid benchGlass none) =
      some (.error (.imageUndecodable "/home/a/loop.gif/" "Not a directory (os error 20)")) ∧
    ¬ Synced benchCompiler benchGlass none screen screen false := by
  refine ⟨_, rfl, rfl, rfl, ?_⟩
  rintro ⟨⟨fresh, hfresh, hshows⟩, -, -⟩
  cases hfresh
  cases hshows.1

end DisplayScreen

end Kori
