import PanelLink.Proofs.Raster.Memory
import PanelLink.Proofs.Replay.Picture
import PanelLink.Proofs.Settings.Valid

/-!
# Setting up a link

A link can be set up exactly with valid settings and enough storage, so settings that were loaded
are never refused by what is built from them.
-/

namespace PanelLink

/-- The color has the low 24 bits of the number. -/
def Color.IsLow24 (color : Color) (number : UInt32) : Prop :=
  color.red.toNat * 65536 + color.green.toNat * 256 + color.blue.toNat =
    number.toNat % 2 ^ 24

theorem Color.isLow24_ofRgb24 (number : UInt32) : (ofRgb24 number).IsLow24 number := by
  simp only [IsLow24, ofRgb24, UInt8.toNat_ofNat']
  omega

/-- The new link is ready: nothing of the limit is cut off, the picture is blank and all of it is
still to be offered to the sink, which has not been called. -/
structure Link.Fresh {σ : Type} (settings : LinkSettings) (sink : σ) (link : Link σ) : Prop where
  limit_eq : link.receiver.limit = settings.frameLimit.toNat
  width_eq : link.compositor.surface.width = settings.width.toNat
  height_eq : link.compositor.surface.height = settings.height.toNat
  pixel?_eq : ∀ x y : Int, 0 ≤ x → x < settings.width.toNat → 0 ≤ y → y < settings.height.toNat →
    ∃ color, link.compositor.surface.pixel? ⟨x, y⟩ = some color ∧
      color.IsLow24 settings.background
  dirty_eq : link.compositor.surface.dirty =
    some ⟨0, 0, settings.width.toNat - 1, settings.height.toNat - 1⟩
  sink_eq : link.sink = sink
  policy_eq : link.policy = settings.policy
  tally_eq : link.tally = {}

namespace Link

variable {σ : Type} {settings : LinkSettings} {storage : Array UInt8} {sink : σ} {link : Link σ}

theorem create_of_invalid
    {failure : SettingsError} (hfailure : settings.validate = .error failure)
    (storage : Array UInt8) (sink : σ) :
    create settings storage sink = .error (.settings failure) := by
  rw [create, hfailure]

theorem create_of_short
    (hvalid : settings.validate = .ok ())
    (hshort : storage.size < storageLength settings.width.toNat settings.height.toNat)
    (sink : σ) :
    create settings storage sink = .error (.surface .bufferTooSmall) := by
  rcases LinkSettings.validate_eq_ok_iff.mp hvalid with ⟨hwidth, hheight, -, -⟩
  have hsize : ¬ (settings.width.toNat = 0 ∨ settings.height.toNat = 0) := by
    simpa [← UInt16.toNat_inj] using And.intro hwidth hheight
  rw [create, hvalid]
  dsimp only
  rw [Surface.ofStorage, dif_neg hsize, dif_pos hshort]

theorem exists_create
    (hvalid : settings.validate = .ok ())
    (hstorage : storageLength settings.width.toNat settings.height.toNat ≤ storage.size)
    (sink : σ) :
    ∃ link, create settings storage sink = .ok link := by
  rcases LinkSettings.validate_eq_ok_iff.mp hvalid with ⟨hwidth, hheight, -, -⟩
  rcases Surface.exists_ofStorage hwidth hheight hstorage with ⟨surface, hsurface⟩
  rw [create, hvalid]
  dsimp only
  rw [hsurface]
  exact ⟨_, rfl⟩

theorem fresh_of_create (hcreate : create settings storage sink = .ok link) :
    link.Fresh settings sink := by
  rcases frameLimit_of_create hcreate with ⟨hmin, hmax⟩
  rcases of_create hcreate with ⟨surface, hsurface, rfl⟩
  rcases Surface.of_ofStorage hsurface with ⟨⟨hwidth, hheight⟩, -, hclean⟩
  have hbounds : surface.bounds =
      ⟨0, 0, settings.width.toNat - 1, settings.height.toNat - 1⟩ := by
    rw [Surface.bounds, hwidth, hheight]
  have hfilled := surface.redrawnAs_fill settings.backgroundColor
  constructor
  case limit_eq =>
    rw [Receiver.withLimit_limit]
    omega
  case width_eq => exact hfilled.width_eq.trans hwidth
  case height_eq => exact hfilled.height_eq.trans hheight
  case pixel?_eq =>
    intro x y hx hx' hy hy'
    have hpoint : surface.bounds.Contains ⟨x, y⟩ := by
      rw [Surface.mem_bounds_iff, hwidth, hheight]
      exact ⟨hx, hx', hy, hy'⟩
    exact ⟨_, Surface.pixel?_fill hpoint _, Color.isLow24_ofRgb24 _⟩
  case dirty_eq =>
    rw [← hbounds]
    exact Surface.dirty_fill hclean _
  case sink_eq | policy_eq | tally_eq => rfl

/-- What is wrong with the settings is said first, whatever the storage; then whether the storage
is too small. -/
theorem create_cases (settings : LinkSettings) (storage : Array UInt8) (sink : σ) :
    (∃ failure, settings.validate = .error failure ∧
        create settings storage sink = .error (.settings failure)) ∨
      (settings.validate = .ok () ∧
        storage.size < storageLength settings.width.toNat settings.height.toNat ∧
        create settings storage sink = .error (.surface .bufferTooSmall)) ∨
      settings.validate = .ok () ∧
        storageLength settings.width.toNat settings.height.toNat ≤ storage.size ∧
        ∃ link, create settings storage sink = .ok link := by
  cases hvalid : settings.validate with
  | error failure => exact .inl ⟨failure, rfl, create_of_invalid hvalid storage sink⟩
  | ok =>
      by_cases hshort : storage.size < storageLength settings.width.toNat settings.height.toNat
      · exact .inr (.inl ⟨rfl, hshort, create_of_short hvalid hshort sink⟩)
      · have hstorage := Nat.le_of_not_lt hshort
        exact .inr (.inr ⟨rfl, hstorage, exists_create hvalid hstorage sink⟩)

end Link

namespace Replay

theorem exists_startLink {settings : LinkSettings} (hvalid : settings.validate = .ok ()) :
    ∃ link, startLink settings = .ok link := by
  rcases exists_surface hvalid with ⟨surface, hsurface⟩
  exact ⟨_, startLink_eq hvalid hsurface⟩

theorem validate_of_ends_loadSettings
    {m : Type → Type} [Monad m] [LawfulMonad m] [Host m] {host : LawfulHost m}
    {filter : LogFilter} {world : host.World} {path : Option String} {settings : ReplaySettings}
    (hends : Ends host filter (host.files world) (loadSettings path) (.ok settings)) :
    settings.link.validate = .ok () := by
  have hloaded := (ends_loadSettings path).unique hends
  unfold loadedSettings at hloaded
  split at hloaded
  next =>
    cases hloaded
    rfl
  next =>
    split at hloaded
    next =>
      cases hloaded
      rfl
    next => contradiction
    next =>
      split at hloaded
      next => contradiction
      next hparse =>
        cases hloaded
        exact ReplaySettings.validate_of_parse hparse

end Replay

/-- A link can be set up exactly with valid settings and storage for all pixels, and is new then.
The settings are judged before the storage, and a surface never refuses the size.  Settings that
were loaded, in either form and with any library, are valid, and a replay has its link with whatever
settings it has loaded. -/
theorem setup_agrees_with_validation :
    (∀ {σ : Type} (settings : LinkSettings) (storage : Array UInt8) (sink : σ),
      ((∃ link, Link.create settings storage sink = .ok link) ↔
        settings.validate = .ok () ∧
          settings.width.toNat * settings.height.toNat * 4 ≤ storage.size) ∧
      (∀ failure, settings.validate = .error failure →
        Link.create settings storage sink = .error (.settings failure)) ∧
      (settings.validate = .ok () →
        storage.size < settings.width.toNat * settings.height.toNat * 4 →
        Link.create settings storage sink = .error (.surface .bufferTooSmall)) ∧
      Link.create settings storage sink ≠ .error (.surface .zeroSize) ∧
      ∀ link, Link.create settings storage sink = .ok link → link.Fresh settings sink) ∧
    (∀ bytes format settings, LinkSettings.load bytes format = .ok settings →
      settings.validate = .ok () ∧ ∃ link, Replay.startLink settings = .ok link) ∧
    (∀ text reader settings, ReplaySettings.parse text reader = .ok settings →
      settings.link.validate = .ok () ∧ ∃ link, Replay.startLink settings.link = .ok link) ∧
    ∀ {m : Type → Type} [Monad m] [LawfulMonad m] [Host m] (host : LawfulHost m)
        (filter : LogFilter) (world : host.World) (path : Option String)
        (settings : ReplaySettings),
      Replay.Ends host filter (host.files world) (Replay.loadSettings path) (.ok settings) →
      ∃ link, Replay.startLink settings.link = .ok link := by
  constructor
  · intro σ settings storage sink
    have hfailure : ∀ failure, settings.validate = .error failure →
        Link.create settings storage sink = .error (.settings failure) :=
      fun _ hfailure => Link.create_of_invalid hfailure storage sink
    have hshort : settings.validate = .ok () →
        storage.size < settings.width.toNat * settings.height.toNat * 4 →
        Link.create settings storage sink = .error (.surface .bufferTooSmall) :=
      fun hvalid hshort => Link.create_of_short hvalid hshort sink
    rcases Link.create_cases settings storage sink with
      ⟨failure, hinvalid, heq⟩ | ⟨hvalid, hsize, heq⟩ | ⟨hvalid, hsize, link, heq⟩
    · refine ⟨?_, hfailure, hshort, ?_, fun _ => Link.fresh_of_create⟩
      · simp [heq, hinvalid]
      · simp [heq]
    · refine ⟨?_, hfailure, hshort, ?_, fun _ => Link.fresh_of_create⟩
      · have hsize' : storage.size < settings.width.toNat * settings.height.toNat * 4 := hsize
        simp [heq, hsize']
      · simp [heq]
    · refine ⟨?_, hfailure, hshort, ?_, fun _ => Link.fresh_of_create⟩
      · have hsize' : settings.width.toNat * settings.height.toNat * 4 ≤ storage.size := hsize
        simp [heq, hvalid, hsize']
      · simp [heq]
  constructor
  · intro bytes format settings hload
    have hvalid := (LinkSettings.load_eq_ok hload).1
    exact ⟨hvalid, Replay.exists_startLink hvalid⟩
  constructor
  · intro text reader settings hparse
    have hvalid := ReplaySettings.validate_of_parse hparse
    exact ⟨hvalid, Replay.exists_startLink hvalid⟩
  · intro m _ _ _ host filter world path settings hends
    exact Replay.exists_startLink (Replay.validate_of_ends_loadSettings hends)

/-- The shortest limit is not cut off and the background loses its upper byte.  One less is not
valid, and is refused before the missing storage. -/
theorem setup_agrees_with_validation_at_the_limit :
    (∃ link, Link.create
        { width := 2, height := 1, background := 0xFF102030, frameLimit := 7 }
        (Array.replicate 9 0) (Shadow.blank 2 1) = .ok link ∧
      link.receiver.limit = 7 ∧
      ∃ color, link.compositor.surface.pixel? ⟨1, 0⟩ = some color ∧
        color.IsLow24 0xFF102030) ∧
    Link.create { frameLimit := 6 } #[] (Shadow.blank 2 1) =
      .error (.settings .frameLimitOutOfRange) := by
  constructor
  · rcases setup_agrees_with_validation.1
      { width := 2, height := 1, background := 0xFF102030, frameLimit := 7 }
      (Array.replicate 9 0) (Shadow.blank 2 1) with ⟨hiff, -, -, -, hfresh⟩
    rcases hiff.mpr ⟨rfl, by decide⟩ with ⟨link, hlink⟩
    have hnew := hfresh link hlink
    exact ⟨link, hlink, hnew.limit_eq,
      hnew.pixel?_eq 1 0 (by decide) (by decide) (by decide) (by decide)⟩
  · exact (setup_agrees_with_validation.1 { frameLimit := 6 } #[] (Shadow.blank 2 1)).2.1 _ rfl

end PanelLink
