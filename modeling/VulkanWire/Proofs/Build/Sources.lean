import VulkanWire.Build.Fragment
import VulkanWire.Proofs.Path.Spelling

/-!
# Source files in build fragments

A build fragment names the implementation files of its modules by texts. A file
below the directory of the fragment gets a text that leads from there to the
file, and any other file keeps its own text; so no two files below that
directory share a text, whatever their paths look like.

## Main definitions

* `BuildEntry.NamedBy` — texts by which the files of entries can be found.

## Main results

* `BuildFragments.renderGuest_eq`, `BuildFragments.renderHost_eq` — the scripts
  around the texts of the files.
* `BuildFragments.sources_lead_back` — every file stands once in the script of
  its role, under a text that leads back to it.
-/

namespace VulkanWire

/-- Texts by which the files of entries can be found from a base directory. -/
structure BuildEntry.NamedBy (nameOf : BuildEntry → String) (es : List BuildEntry) (base : Path) :
    Prop where
  /-- From the base, the text of a file below it leads to the file. -/
  below : ∀ e ∈ es, base.components <+: e.path.components →
    (base.join ⟨nameOf e⟩).components = e.path.components
  /-- Any other file keeps its own text. -/
  elsewhere : ∀ e ∈ es, ¬ base.components <+: e.path.components → nameOf e = e.path.text
  /-- Different files below the base have different texts. -/
  distinct : ∀ e ∈ es, ∀ e' ∈ es, base.components <+: e.path.components →
    base.components <+: e'.path.components → e.path.components ≠ e'.path.components →
    nameOf e ≠ nameOf e'

theorem join_relativeSpelling {path base : Path} (h : base.components <+: path.components) :
    (base.join ⟨relativeSpelling path base⟩).components = path.components := by
  obtain ⟨rest, hrest⟩ := h
  rw [relativeSpelling, Path.relativeTo?_eq_some_iff.mpr hrest.symm]
  exact Path.components_join_spell hrest.symm

theorem relativeSpelling_of_not_below {path base : Path}
    (h : ¬ base.components <+: path.components) : relativeSpelling path base = path.text := by
  rw [relativeSpelling, Path.relativeTo?_eq_none_iff.mpr h]

theorem namedBy_relativeSpelling (es : List BuildEntry) (base : Path) :
    BuildEntry.NamedBy (fun e => relativeSpelling e.path base) es base where
  below e _ := join_relativeSpelling
  elsewhere e _ := relativeSpelling_of_not_below
  distinct e _ e' _ hbelow hbelow' hne heq := by
    apply hne
    calc
      e.path.components = (base.join ⟨relativeSpelling e.path base⟩).components :=
        (join_relativeSpelling hbelow).symm
      _ = (base.join ⟨relativeSpelling e'.path base⟩).components := by rw [heq]
      _ = e'.path.components := join_relativeSpelling hbelow'

namespace BuildFragments

theorem renderGuest_eq (s : FragmentSettings) :
    ∃ opening closing : String, ∀ (f : BuildFragments) (base : Path), f.renderGuest base s =
      opening ++
        " \\\n".intercalate (f.guest.map fun e => "    " ++ relativeSpelling e.path base) ++
      closing :=
  ⟨_, _, fun _ _ => rfl⟩

theorem renderHost_eq (s : FragmentSettings) :
    ∃ opening closing : String, ∀ (f : BuildFragments) (base : Path), f.renderHost base s =
      opening ++ " ".intercalate (f.host.map fun e => relativeSpelling e.path base) ++
      closing := by
  refine ⟨s.banner ++ ("add_library(" ++ (s.hostLibrary ++ " ")), ?_, fun f base => ?_⟩
  rotate_left
  · simp only [renderHost, String.append_assoc]
    rfl

/-- Every file stands once in the script of its role, in the order of the entries, under a text that
leads from the base to the file, or under its own text if it does not lie below the base. What
stands around the texts depends on the settings alone. -/
theorem sources_lead_back (s : FragmentSettings) :
    ∃ guestOpening guestClosing hostOpening hostClosing : String,
      ∀ (es : List BuildEntry) (base : Path), ∃ nameOf : BuildEntry → String,
        BuildEntry.NamedBy nameOf es base ∧
          (ofEntries es).renderGuest base s =
            guestOpening ++
              " \\\n".intercalate ((es.filter fun e => e.role = .guestEncoder).map fun e =>
                "    " ++ nameOf e) ++
              guestClosing ∧
          (ofEntries es).renderHost base s =
            hostOpening ++
              " ".intercalate ((es.filter fun e => e.role = .host ∨ e.role = .common).map nameOf) ++
              hostClosing := by
  obtain ⟨guestOpening, guestClosing, hguest⟩ := renderGuest_eq s
  obtain ⟨hostOpening, hostClosing, hhost⟩ := renderHost_eq s
  refine ⟨guestOpening, guestClosing, hostOpening, hostClosing, fun es base => ?_⟩
  refine ⟨fun e => relativeSpelling e.path base, namedBy_relativeSpelling es base, ?_, ?_⟩
  · rw [hguest, ofEntries_eq]
  · have hroles : (es.filter fun e => e.role ≠ .guestEncoder) =
        es.filter fun e => e.role = .host ∨ e.role = .common := by
      apply List.filter_congr
      intro e _
      cases e.role <;> rfl
    rw [hhost, ofEntries_eq, hroles]

example : relativeSpelling "/out//./a/../b.cpp" "/out/" = "a/../b.cpp" := by decide

end BuildFragments

end VulkanWire
