import Mathlib.Tactic
import PanelLink.Replay.Bench

/-!
# Lawful hosts

What a replay relies on in the system it runs on.  There are files; reading and logging leave them
as they are, and a picture that is saved can be found again.  The bench is such a system.
-/

namespace PanelLink

/-- What is known of a host: its operations act on a world, and there are files in that world.  An
opened capture is at its start. -/
structure LawfulHost (m : Type → Type) [Monad m] [LawfulMonad m] [Host m] where
  World : Type
  Files : Type
  files : World → Files
  perform : {α : Type} → m α → World → α × World
  text : Files → String → TextFile
  capture? : Files → String → Option (Capture Unit)
  picture? : Files → String → Option Shadow
  /-- There is a place for a picture of this name. -/
  HasPlace : Files → String → Prop
  saved : Files → String → Shadow → Files
  perform_pure : ∀ {α : Type} (value : α) (world : World), perform (pure value) world = (value, world)
  perform_bind : ∀ {α β : Type} (first : m α) (rest : α → m β) (world : World),
    perform (first >>= rest) world =
      perform (rest (perform first world).1) (perform first world).2
  perform_readText : ∀ path world, ∃ next,
    perform (Host.readText path) world = (text (files world) path, next) ∧
      files next = files world
  perform_openCapture : ∀ path world, ∃ next,
    perform (Host.openCapture path) world = (capture? (files world) path, next) ∧
      files next = files world
  perform_log : ∀ record world, files (perform (Host.log record) world).2 = files world
  perform_savePicture : ∀ path shadow world, HasPlace (files world) path → ∃ next,
    perform (Host.savePicture path shadow) world = (true, next) ∧
      files next = saved (files world) path shadow
  capture?_unread : ∀ found path capture, capture? found path = some capture →
    capture.resetPending = true ∧ capture.delivered = 0
  picture?_saved : ∀ found path shadow, HasPlace found path →
    picture? (saved found path shadow) path = some shadow

namespace LawfulHost

variable {m : Type → Type} [Monad m] [LawfulMonad m] [Host m] {α β : Type}

theorem perform_map
    (host : LawfulHost m) (change : α → β) (operation : m α) (world : host.World) :
    host.perform (change <$> operation) world =
      (change (host.perform operation world).1, (host.perform operation world).2) := by
  rw [map_eq_pure_bind, host.perform_bind, host.perform_pure]

/-- A capture cannot be opened, or it can be read to its end, or the reading fails. -/
theorem capture?_cases (host : LawfulHost m) (found : host.Files) (path : String) :
    host.capture? found path = none ∨
      (∃ bytes, host.capture? found path = some { bytes }) ∨
      ∃ bytes, host.capture? found path = some { bytes, failure := some () } := by
  cases hcapture : host.capture? found path with
  | none => exact .inl rfl
  | some capture =>
      rcases host.capture?_unread found path capture hcapture with ⟨hreset, hdelivered⟩
      rcases capture with ⟨bytes, failure, resetPending, delivered⟩
      simp only at hreset hdelivered
      subst hreset hdelivered
      cases failure with
      | none => exact .inr (.inl ⟨bytes, rfl⟩)
      | some failure => exact .inr (.inr ⟨bytes, rfl⟩)

end LawfulHost

/-! ## The bench -/

namespace Bench

variable {entries : List (Location × BenchEntry)}

theorem walk_eq (log : List String) (place : Location) (parts : List String) :
    walk ⟨entries, log⟩ place parts = walk ⟨entries, []⟩ place parts := by
  induction parts generalizing place with
  | nil => rfl
  | cons part parts ih =>
      rw [walk, walk, ih, ih, ih]
      rfl

theorem locate_eq (log : List String) (path : String) :
    locate ⟨entries, log⟩ path = locate ⟨entries, []⟩ path := by
  rw [locate, locate, walk_eq]

theorem openCapture_eq (log : List String) (path : String) :
    openCapture ⟨entries, log⟩ path = openCapture ⟨entries, []⟩ path := by
  rw [openCapture, openCapture, locate_eq]
  rfl

theorem readText_eq (log : List String) (path : String) :
    readText ⟨entries, log⟩ path = readText ⟨entries, []⟩ path := by
  rw [readText, readText, locate_eq]
  rfl

theorem openCapture_of_file
    {bench : Bench} {path : String} {place : Location} {bytes : List UInt8}
    (hplace : bench.locate path = some place) (hfile : bench.find? place = some (.file bytes)) :
    bench.openCapture path = some { bytes } := by
  rw [openCapture, hplace]
  simp only [Option.bind_eq_bind, Option.bind_some, hfile]

theorem openCapture_unread
    {bench : Bench} {path : String} {capture : Capture Unit}
    (hopen : bench.openCapture path = some capture) :
    capture.resetPending = true ∧ capture.delivered = 0 := by
  unfold openCapture at hopen
  cases hplace : bench.locate path with
  | none => simp [hplace] at hopen
  | some place =>
      simp only [hplace, Option.bind_eq_bind, Option.bind_some] at hopen
      split at hopen
      next =>
        cases hopen
        exact ⟨rfl, rfl⟩
      next =>
        cases hopen
        exact ⟨rfl, rfl⟩
      next => contradiction
      next =>
        split at hopen
        next =>
          cases hopen
          exact ⟨rfl, rfl⟩
        next => contradiction

/-! ### Saving a picture -/

/-- The place is free for a picture: it is no folder, and it does not lie at the root. -/
def IsFree (bench : Bench) (place : Location) : Prop :=
  bench.isFolder place = false ∧ place.head? ≠ some "/"

/-- What is found by going through folders is found when there are more of them, too. -/
theorem walk_mono
    {bench other : Bench} {place last : Location} {parts : List String}
    (hfolders : ∀ place, bench.isFolder place = true → other.isFolder place = true)
    (hwalk : bench.walk place parts = some last) : other.walk place parts = some last := by
  induction parts generalizing place with
  | nil => exact hwalk
  | cons part parts ih =>
      rw [walk] at hwalk ⊢
      by_cases hstop : (!bench.isFolder place || decide (maxName < part.utf8ByteSize)) = true
      · rw [if_pos hstop] at hwalk
        contradiction
      · have hfolder : other.isFolder place = true := by
          apply hfolders
          simp_all
        have hgo : ¬ (!other.isFolder place || decide (maxName < part.utf8ByteSize)) = true := by
          simp_all
        rw [if_neg hstop] at hwalk
        rw [if_neg hgo]
        split at hwalk
        next hhere =>
          rw [if_pos hhere]
          exact ih hwalk
        next hother =>
          rw [if_neg hother]
          split at hwalk
          next hup =>
            rw [if_pos hup]
            exact ih hwalk
          next hdown =>
            rw [if_neg hdown]
            exact ih hwalk

def withPicture (entries : List (Location × BenchEntry)) (place : Location) (shadow : Shadow) :
    List (Location × BenchEntry) :=
  (place, .picture shadow) :: entries.filter fun entry => entry.1 ≠ place

theorem savePicture_of_isFree
    {bench : Bench} {path : String} {place : Location} (hplace : bench.locate path = some place)
    (hfree : bench.IsFree place) (shadow : Shadow) :
    bench.savePicture path shadow =
      (true, { bench with entries := withPicture bench.entries place shadow }) := by
  rcases hfree with ⟨hfolder, hroot⟩
  rw [savePicture, hplace]
  simp [hfolder, hroot, withPicture]

theorem lookup_filter_ne {place other : Location} (hne : other ≠ place) :
    (entries.filter fun entry => entry.1 ≠ place).lookup other = entries.lookup other := by
  induction entries with
  | nil => rfl
  | cons entry entries ih =>
      by_cases hentry : entry.1 = place
      · have hother : (other == entry.1) = false := by
          simpa [hentry] using hne
        rw [List.filter_cons_of_neg (by simpa using hentry), ih, List.lookup_cons, hother]
      · rw [List.filter_cons_of_pos (by simpa using hentry), List.lookup_cons, List.lookup_cons, ih]

theorem isFolder_withPicture
    {log : List String} {place other : Location} {shadow : Shadow}
    (hfree : isFolder ⟨entries, log⟩ place = false)
    (hfolder : isFolder ⟨entries, log⟩ other = true) :
    isFolder ⟨withPicture entries place shadow, log⟩ other = true := by
  have hne : other ≠ place := by
    rintro rfl
    rw [hfree] at hfolder
    contradiction
  unfold isFolder at hfolder ⊢
  rw [Bool.or_eq_true, Bool.or_eq_true] at hfolder ⊢
  rcases hfolder with (hancestor | hfound) | hinside
  · exact .inl (.inl hancestor)
  · refine .inl (.inr ?_)
    have hkept : find? ⟨withPicture entries place shadow, log⟩ other =
        find? ⟨entries, log⟩ other := by
      have hother : (other == place) = false := by
        simpa using hne
      rw [find?, find?, withPicture, List.lookup_cons, hother]
      exact lookup_filter_ne hne
    rw [hkept]
    exact hfound
  · refine .inr ?_
    rcases List.any_eq_true.mp hinside with ⟨entry, hentry, hbelow⟩
    rw [List.any_eq_true]
    by_cases hplace : entry.1 = place
    · refine ⟨(place, .picture shadow), List.mem_cons_self, ?_⟩
      rwa [hplace] at hbelow
    · refine ⟨entry, List.mem_cons_of_mem _ ?_, hbelow⟩
      exact List.mem_filter.mpr ⟨hentry, by simpa using hplace⟩

theorem picture?_withPicture
    {path : String} {place : Location} {log : List String}
    (hplace : locate ⟨entries, log⟩ path = some place)
    (hfree : IsFree ⟨entries, log⟩ place) (shadow : Shadow) :
    picture? ⟨withPicture entries place shadow, log⟩ path = some shadow := by
  have hfolders : ∀ other, isFolder ⟨entries, log⟩ other = true →
      isFolder ⟨withPicture entries place shadow, log⟩ other = true :=
    fun _ => isFolder_withPicture hfree.1
  have hkept : locate ⟨withPicture entries place shadow, log⟩ path = some place := by
    rw [locate] at hplace ⊢
    split at hplace
    next => contradiction
    next hname =>
      rw [if_neg hname]
      exact walk_mono hfolders hplace
  have hfound : find? ⟨withPicture entries place shadow, log⟩ place = some (.picture shadow) :=
    List.lookup_cons_self
  rw [picture?, hkept]
  simp only [Option.bind_eq_bind, Option.bind_some, hfound]

/-- The bench as a host.  Its files are its entries. -/
def lawfulHost : LawfulHost (StateM Bench) where
  World := Bench
  Files := List (Location × BenchEntry)
  files := Bench.entries
  perform operation bench := operation.run bench
  text entries path := readText ⟨entries, []⟩ path
  capture? entries path := openCapture ⟨entries, []⟩ path
  picture? entries path := Bench.picture? ⟨entries, []⟩ path
  HasPlace entries path := ∃ place, locate ⟨entries, []⟩ path = some place ∧
    IsFree ⟨entries, []⟩ place
  saved entries path shadow := (savePicture ⟨entries, []⟩ path shadow).2.entries
  perform_pure _ _ := rfl
  perform_bind _ _ _ := rfl
  perform_readText path bench := by
    refine ⟨bench, ?_, rfl⟩
    rw [← readText_eq bench.log path]
    rfl
  perform_openCapture path bench := by
    refine ⟨bench, ?_, rfl⟩
    rw [← openCapture_eq bench.log path]
    rfl
  perform_log _ _ := rfl
  perform_savePicture path shadow bench hplace := by
    rcases hplace with ⟨place, hplace, hfree⟩
    have hlocate : bench.locate path = some place := (locate_eq bench.log path).trans hplace
    have hfree' : bench.IsFree place := hfree
    refine ⟨_, savePicture_of_isFree hlocate hfree' shadow, ?_⟩
    rw [savePicture_of_isFree hplace hfree shadow]
  capture?_unread _ _ _ := openCapture_unread
  picture?_saved entries path shadow hplace := by
    rcases hplace with ⟨place, hplace, hfree⟩
    rw [savePicture_of_isFree hplace hfree shadow]
    exact picture?_withPicture hplace hfree shadow

end Bench

end PanelLink
