import TwigPrinter.Proofs.Answers
import TwigPrinter.Settings.Layers
/-!
The order in which a loader is told of files and of single values. What is relied on of the backend
is that sources are merged in their order when the settings are built, and that values that were set
are kept apart from them and put over all of them. So it does not matter what was said between two
files or between two values, and a step that adds nothing can stand anywhere.
-/
namespace TwigPrinter.Settings

/-- How the builder of a backend is looked at: the sources and the values in it, and what becomes of
them. -/
structure Backend.View (b : Backend) where
  Key : Type
  /-- The values that were set, of which some may have been replaced. -/
  Overrides : Type
  Table : Type
  parseKey? : String → Option Key
  sources : b.Builder → List Source
  overrides : b.Builder → Overrides
  put : Overrides → Key → b.Value → Overrides
  empty : Table
  read : Disk → Source → Except b.Error Table
  merge : Table → Table → Table
  override : Overrides → Table → b.Config

namespace Backend.View

variable {b : Backend} (v : b.View)

def mergeAll (d : Disk) : List Source → v.Table → Except b.Error v.Table
  | [], t => .ok t
  | s :: rest, t => do
    let layer ← v.read d s
    mergeAll d rest (v.merge t layer)

@[simp] theorem mergeAll_nil (d : Disk) (t : v.Table) : v.mergeAll d [] t = .ok t := rfl

@[simp] theorem mergeAll_cons (d : Disk) (s : Source) (rest : List Source) (t : v.Table) :
    v.mergeAll d (s :: rest) t =
      v.read d s >>= fun layer => v.mergeAll d rest (v.merge t layer) := rfl

/-- What is relied on of a backend. -/
structure Lawful : Prop where
  sources_addSource : ∀ x s, v.sources (b.addSource x s) = v.sources x ++ [s]
  overrides_addSource : ∀ x s, v.overrides (b.addSource x s) = v.overrides x
  setOverride_of_key : ∀ x text k value, v.parseKey? text = some k →
    ∃ y, b.setOverride x text value = .ok y ∧ v.sources y = v.sources x ∧
      v.overrides y = v.put (v.overrides x) k value
  setOverride_of_no_key : ∀ x text value, v.parseKey? text = none →
    ∃ e, b.setOverride x text value = .error e
  /-- Sources are read when the settings are built. All values are put over all sources. -/
  build_eq : ∀ x d, b.build x d =
    (v.mergeAll d (v.sources x) v.empty).map (v.override (v.overrides x))
  /-- A file is looked for under its path and with the usual extension. -/
  read_of_no_file : ∀ d path, d.hasFile path = false →
    (∀ found, Path.addExtension? path "toml" = some found → d.hasFile found = false) →
    v.read d (.file path false) = .ok v.empty
  merge_empty : ∀ t, v.merge t v.empty = t

end Backend.View

namespace Step

variable {b : Backend}

def file? : Step b → Option Source
  | .file path => some (.file path true)
  | .optionalFile path => some (.file path false)
  | .set _ _ => none

/-- The value that a step sets, if its key is one. -/
def override? (v : b.View) : Step b → Option (v.Key × b.Value)
  | .set key value => (v.parseKey? key).map (·, value)
  | _ => none

/-- The step sets a value under what is no key, or adds a file that need not be there and whose path
leads to nothing. -/
def NamesNothing (v : b.View) (d : Disk) : Step b → Prop
  | .file _ => False
  | .optionalFile path => d.holds path = false
  | .set key _ => v.parseKey? key = none

/-- The step sets a value under what is no key, or adds a file that need not be there and is found
neither under its path nor with the usual extension. -/
def IsIdle (v : b.View) (d : Disk) : Step b → Prop
  | .file _ => False
  | .optionalFile path => d.hasFile path = false ∧
    ∀ found, Path.addExtension? path "toml" = some found → d.hasFile found = false
  | .set key _ => v.parseKey? key = none

end Step

namespace Loader

variable {b : Backend}

def after (b : Backend) (steps : List (Step b)) : Loader b := steps.foldl advance (new b)

section Steps

variable {v : b.View} (h : v.Lawful) (l : Loader b) (s : Step b) (steps : List (Step b))

def putAll (v : b.View) (values : List (v.Key × b.Value)) (done : v.Overrides) : v.Overrides :=
  values.foldl (fun done (key, value) => v.put done key value) done

include h

theorem advance_eq :
    v.sources (l.advance s).builder = v.sources l.builder ++ s.file?.toList ∧
      v.overrides (l.advance s).builder =
        putAll v (s.override? v).toList (v.overrides l.builder) := by
  cases s with
  | file path => exact ⟨h.sources_addSource _ _, h.overrides_addSource _ _⟩
  | optionalFile path => exact ⟨h.sources_addSource _ _, h.overrides_addSource _ _⟩
  | set key value =>
    cases hkey : v.parseKey? key with
    | none =>
      obtain ⟨e, he⟩ := h.setOverride_of_no_key l.builder key value hkey
      simp [advance, apply, set, he, hkey, Except.map, Step.file?, Step.override?, putAll]
    | some k =>
      obtain ⟨y, hy, hsources, hoverrides⟩ := h.setOverride_of_key l.builder key k value hkey
      simp [advance, apply, set, hy, hkey, hsources, hoverrides, Except.map, Step.file?,
        Step.override?, putAll]

theorem foldl_advance_eq :
    v.sources (steps.foldl advance l).builder =
        v.sources l.builder ++ steps.filterMap Step.file? ∧
      v.overrides (steps.foldl advance l).builder =
        putAll v (steps.filterMap (Step.override? v)) (v.overrides l.builder) := by
  induction steps generalizing l with
  | nil => simp [putAll]
  | cons s rest ih =>
    obtain ⟨hsources, hoverrides⟩ := advance_eq h l s
    obtain ⟨ihsources, ihoverrides⟩ := ih (l.advance s)
    rw [List.foldl_cons, ihsources, ihoverrides, hsources, hoverrides, List.filterMap_cons,
      List.filterMap_cons]
    constructor
    · cases s.file? <;> simp
    · cases s.override? v <;> rfl

/-- The settings after some steps, from the files and the values of these. -/
theorem build_after_eq (d : Disk) :
    (after b steps).build d =
      ((v.mergeAll d (v.sources (new b).builder ++ steps.filterMap Step.file?) v.empty).map
        (v.override (putAll v (steps.filterMap (Step.override? v))
          (v.overrides (new b).builder)))).bind b.deserialize := by
  obtain ⟨hsources, hoverrides⟩ := foldl_advance_eq h (new b) steps
  rw [build, h.build_eq, after, hsources, hoverrides]

theorem mergeAll_skip {d : Disk} {s : Source} (hs : v.read d s = .ok v.empty)
    (before rest : List Source) (t : v.Table) :
    v.mergeAll d (before ++ s :: rest) t = v.mergeAll d (before ++ rest) t := by
  induction before generalizing t with
  | nil => simp [hs, h.merge_empty]
  | cons g before ih => simp [ih]

theorem build_skip {d : Disk} {s : Step b} (hs : s.IsIdle v d) (before rest : List (Step b)) :
    (after b (before ++ s :: rest)).build d = (after b (before ++ rest)).build d := by
  rw [build_after_eq h, build_after_eq h]
  cases s with
  | file path => exact hs.elim
  | optionalFile path =>
    have hread := h.read_of_no_file d path hs.1 hs.2
    simp only [List.filterMap_append, List.filterMap_cons, Step.file?, Step.override?,
      ← List.append_assoc, mergeAll_skip h hread]
  | set key value =>
    have hkey : v.parseKey? key = none := hs
    simp [Step.file?, Step.override?, hkey, List.filterMap_cons]

end Steps

/-- Settings depend on the files in their order and on the values set in their order, not on how
the two are mixed, and on no idle step. -/
theorem build_after_interleaving {b : Backend} {v : b.View} (h : v.Lawful) (d : Disk) :
    (∀ steps steps' : List (Step b),
      steps.filterMap Step.file? = steps'.filterMap Step.file? →
      steps.filterMap (Step.override? v) = steps'.filterMap (Step.override? v) →
      (after b steps).build d = (after b steps').build d) ∧
    ∀ (s : Step b) (before rest : List (Step b)), s.IsIdle v d →
      (after b (before ++ s :: rest)).build d = (after b (before ++ rest)).build d := by
  constructor
  · intro steps steps' hfiles hoverrides
    rw [build_after_eq h, build_after_eq h, hfiles, hoverrides]
  · intro s before rest hs
    exact build_skip h hs before rest

end Loader

/-! The backend that comes with this library keeps the laws, in whatever order it goes through the
values. -/

section Layered

variable (listing : Listing)

@[reducible] def layeredView : (Backend.layered listing).View where
  Key := Key
  Overrides := List (Key × Value)
  -- a document is kept as its entries, which are put over the value of those before it
  Table := List (String × Toml.Value)
  parseKey? := Key.parse?
  sources := Layers.sources
  overrides := Layers.overrides
  put done key value := Layers.putOverride key value done
  empty := []
  read d s := s.entries d
  merge t layer := t ++ layer
  override overrides t := Layers.putOverrides listing overrides (putEntries (.table []) t)

theorem putEntries_append (root : Value) (xs ys : List (String × Toml.Value)) :
    putEntries root (xs ++ ys) = putEntries (putEntries root xs) ys := by
  induction xs generalizing root with
  | nil => rfl
  | cons x rest ih =>
    obtain ⟨name, value⟩ := x
    simp [putEntries, ih]

theorem putSources_eq_mergeAll (d : Disk) (sources : List Source)
    (t : (layeredView listing).Table) :
    putSources d sources (putEntries (.table []) t) =
      ((layeredView listing).mergeAll d sources t).map (putEntries (.table [])) := by
  induction sources generalizing t with
  | nil => rfl
  | cons s rest ih =>
    have hread : (layeredView listing).read d s = s.entries d := rfl
    rw [putSources, Backend.View.mergeAll_cons, hread]
    cases s.entries d with
    | error e => rfl
    | ok entries =>
      rw [ok_bind, ok_bind, ← putEntries_append]
      exact ih (t ++ entries)

theorem findFile?_eq_none {d : Disk} {path : String} (hpath : d.hasFile path = false)
    (hfound : ∀ found, Path.addExtension? path "toml" = some found → d.hasFile found = false) :
    findFile? d path = none := by
  unfold findFile?
  cases hext : Path.addExtension? path "toml" with
  | none => simp [hpath]
  | some found => simp [hpath, hfound found hext]

theorem lawful_layeredView : (layeredView listing).Lawful where
  sources_addSource _ _ := rfl
  overrides_addSource _ _ := rfl
  setOverride_of_key x text k value hkey := by
    have hparse : Key.parse? text = some k := hkey
    refine ⟨{ x with overrides := Layers.putOverride k value x.overrides }, ?_, rfl, rfl⟩
    simp [Layers.setOverride, hparse]
  setOverride_of_no_key x text value hkey := by
    have hparse : Key.parse? text = none := hkey
    exact ⟨.badKey text, by simp [Layers.setOverride, hparse]⟩
  build_eq x d := by
    have hsources := putSources_eq_mergeAll listing d x.sources []
    rw [putEntries] at hsources
    change Layers.build listing x d = _
    rw [Layers.build, hsources]
    cases (layeredView listing).mergeAll d x.sources [] <;> rfl
  read_of_no_file d path hpath hfound := by
    change Source.entries d (.file path false) = .ok []
    simp [Source.entries, fileText?, findFile?_eq_none hpath hfound]
  merge_empty t := List.append_nil t

end Layered

namespace Loader

def oneFile : Disk := .ofList [("a.toml", .file "[output]\nformat = \"a\"".toByteArray)]

/-- What is built in, read from the characters of its lines: these are found faster than those of
the whole text. -/
theorem entries_defaults (d : Disk) :
    Source.entries d (.text defaults) =
      (Toml.entries (Toml.dropMark (defaultLines.flatMap fun line => line.toList ++ ['\n']))).mapError
        (.badDocument none) := by
  have hlines : defaults.toList = defaultLines.flatMap fun line => line.toList ++ ['\n'] := by
    simp [defaults, String.toList_join, List.flatMap_map]
  rw [Source.entries, Toml.parse, hlines]

/-- The settings when there are files but no values that were set. -/
theorem build_layered (files : List Source) (d : Disk) :
    (Loader.mk ⟨.text defaults :: files, []⟩ : Loader (.layered .asSet)).build d =
      (Source.entries d (.text defaults) >>= fun entries =>
        putSources d files (putEntries (.table []) entries) >>= Value.toSettings) := by
  change (Layers.build .asSet ⟨.text defaults :: files, []⟩ d).bind Value.toSettings = _
  rw [Layers.build, putSources]
  cases Source.entries d (.text defaults) with
  | error e => rfl
  | ok entries =>
    rw [ok_bind, ok_bind]
    cases putSources d files (putEntries (.table []) entries) <;> rfl

/-- A file that need not be there counts although its path leads to nothing, when it is there with
the usual extension. -/
theorem build_counts_file_found_by_extension :
    ¬ ∀ (s : Step (.layered .asSet)) (before rest : List (Step (.layered .asSet))),
      s.NamesNothing (layeredView .asSet) oneFile →
      (after _ (before ++ s :: rest)).build oneFile = (after _ (before ++ rest)).build oneFile := by
  intro h
  have hnothing : Step.NamesNothing (layeredView .asSet) oneFile (.optionalFile "a") := by
    rw [Step.NamesNothing]
    decide +kernel
  have hsame : (Loader.mk ⟨[.text defaults, .file "a" false], []⟩ : Loader (.layered .asSet)).build
      oneFile = (Loader.mk ⟨[.text defaults], []⟩ : Loader (.layered .asSet)).build oneFile :=
    h (.optionalFile "a") [] [] hnothing
  rw [build_layered, build_layered, entries_defaults] at hsame
  have hformat := congrArg (fun x => x.toOption.map (·.format)) hsame
  revert hformat
  decide +kernel

/-- A value set before a file is over it all the same, and steps that add nothing do not count. -/
theorem build_after_mixed_steps :
    (after (.layered .asSet) [.set "output.format" (Value.string "html"), .file "a.toml"]).build
        oneFile =
        (after (.layered .asSet) [.file "a.toml", .set "output.format" (Value.string "html")]).build
          oneFile ∧
      (after (.layered .asSet) [.optionalFile "b", .file "a.toml", .set "output?" Value.null]).build
        oneFile = (after (.layered .asSet) [.file "a.toml"]).build oneFile := by
  obtain ⟨hmixed, hidle⟩ := build_after_interleaving (lawful_layeredView .asSet) oneFile
  refine ⟨hmixed _ _ rfl rfl, ?_⟩
  have hfile : Step.IsIdle (layeredView .asSet) oneFile (.optionalFile "b") := by
    have hext : Path.addExtension? "b" "toml" = some "b.toml" := by decide +kernel
    refine ⟨by decide +kernel, fun found hfound => ?_⟩
    obtain rfl : "b.toml" = found := Option.some.inj (hext.symm.trans hfound)
    decide +kernel
  have hset : Step.IsIdle (layeredView .asSet) oneFile (.set "output?" Value.null) := rfl
  have hfirst := hidle _ [] [.file "a.toml", .set "output?" Value.null] hfile
  have hlast := hidle _ [.file "a.toml"] [] hset
  exact hfirst.trans hlast

end Loader
end TwigPrinter.Settings
