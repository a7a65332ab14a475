/-
# The directive that decides

Where no directive asks for fields, a directive yields to every other one whose target is at least
as long (`Log.Directive.yieldsTo_iff`). So the walk through the directives that fit an event keeps,
at every step, one of those it has met with a target as long as any (`Log.Filter.stronger_longest`),
and ends with a longest of all (`Log.Filter.foldl_stronger_longest`). Targets that fit an event
begin its target, so of one length there is one at most: with distinct targets the order of the
directives is of no account, and an event is shown if the directive with the longest target admits
its level (`Log.Filter.shows_iff`).

Key definitions: `Log.verbosity`, `Log.Directive.ForTargets`, `Log.Filter.Decides`.
Key theorems: `Log.Filter.foldl_stronger_longest`, `Log.Filter.Decides.unique`,
`Log.Filter.shows_iff`.
-/
import InstructionSheet.Log.Filter
import Mathlib.Data.List.Nodup

namespace InstructionSheet
namespace Log

/-- How many levels a threshold shows, from errors on; the rank of a level is its place among
them. -/
def verbosity : Option Level → Nat
  | none => 0
  | some least => least.rank

namespace Directive

variable {d d' : Directive}

/-- A directive that looks at nothing but the target. -/
structure ForTargets (d : Directive) : Prop where
  field : d.field = none
  spansOnly : d.spansOnly = false

theorem forTargets_forTarget (target : List Char) (threshold : Option Level) :
    (forTarget target threshold).ForTargets := ⟨rfl, rfl⟩

theorem admits_iff (d : Directive) (l : Level) :
    d.admits l = true ↔ l.rank ≤ verbosity d.threshold := by
  unfold admits
  cases d.threshold with
  | none => cases l <;> decide
  | some least => rw [decide_eq_true_eq]; rfl

theorem ForTargets.fits_iff (h : d.ForTargets) (e : Event) :
    d.fits e = true ↔ d.target <+: e.target.toList := by
  rw [fits, h.field, h.spansOnly, Option.all_none, Bool.and_true, Bool.not_false, Bool.true_and,
    List.isPrefixOf_iff_prefix]

/-- A directive that asks for no field yields to any other with a target as long or longer. -/
theorem yieldsTo_iff (h : d.field = none) :
    d.yieldsTo d' = true ↔ d.target.length ≤ d'.target.length := by
  rw [yieldsTo, h]
  split
  · rename_i heq
    simp [heq]
  · rename_i hne
    rw [decide_eq_true_eq]
    omega

end Directive

namespace Filter

/-! ### The walk through the directives -/

theorem stronger_longest {best d : Directive} (h : best.field = none) :
    ∃ x, stronger (some best) d = some x ∧ (x = best ∨ x = d) ∧
      best.target.length ≤ x.target.length ∧ d.target.length ≤ x.target.length := by
  rw [stronger]
  by_cases hyields : best.yieldsTo d = true
  · rw [if_pos hyields]
    exact ⟨d, rfl, Or.inr rfl, (Directive.yieldsTo_iff h).mp hyields, Nat.le_refl _⟩
  · rw [if_neg hyields]
    have hlonger : ¬ best.target.length ≤ d.target.length := by
      rw [← Directive.yieldsTo_iff h]
      exact hyields
    exact ⟨best, rfl, Or.inl rfl, Nat.le_refl _, by omega⟩

/-- **The walk ends with one of the directives whose target is as long as any.** -/
theorem foldl_stronger_longest : ∀ (ds : List Directive) (best : Directive),
    (∀ d ∈ best :: ds, d.field = none) →
      ∃ x ∈ best :: ds, ds.foldl stronger (some best) = some x ∧
        ∀ d ∈ best :: ds, d.target.length ≤ x.target.length
  | [], best, _ => by
    refine ⟨best, List.mem_cons_self, rfl, fun d hd => ?_⟩
    obtain rfl : d = best := List.mem_singleton.mp hd
    exact Nat.le_refl _
  | d :: ds, best, h => by
    obtain ⟨hbest, hrest⟩ := List.forall_mem_cons.mp h
    obtain ⟨hd, hds⟩ := List.forall_mem_cons.mp hrest
    obtain ⟨y, hstep, hy, hbest_le, hd_le⟩ := @stronger_longest best d hbest
    have hfield : y.field = none := by
      rcases hy with rfl | rfl
      · exact hbest
      · exact hd
    obtain ⟨x, hx, hwalk, hlongest⟩ :=
      foldl_stronger_longest ds y (List.forall_mem_cons.mpr ⟨hfield, hds⟩)
    have hy_le := hlongest y List.mem_cons_self
    refine ⟨x, ?_, ?_, ?_⟩
    · -- what the rest of the walk keeps is `y`, one of the first two, or comes behind them
      rcases List.mem_cons.mp hx with rfl | hx
      · rcases hy with rfl | rfl <;> simp
      · exact List.mem_cons_of_mem _ (List.mem_cons_of_mem _ hx)
    · rw [List.foldl_cons, hstep, hwalk]
    · intro d' hd'
      rcases List.mem_cons.mp hd' with rfl | hd'
      · omega
      · rcases List.mem_cons.mp hd' with rfl | hd'
        · omega
        · exact hlongest d' (List.mem_cons_of_mem _ hd')

/-! ### Deciding on an event -/

/-- A directive decides on an event if it fits the event and no other that does has a longer
target. -/
structure Decides (f : Filter) (e : Event) (d : Directive) : Prop where
  mem : d ∈ f.directives
  fits : d.fits e = true
  longest : ∀ d' ∈ f.directives, d'.fits e = true → d'.target.length ≤ d.target.length

variable {f : Filter}

theorem deciding?_cases (h : ∀ d ∈ f.directives, d.field = none) (e : Event) :
    (f.deciding? e = none ∧ ∀ d ∈ f.directives, d.fits e = false) ∨
      ∃ d, f.deciding? e = some d ∧ f.Decides e d := by
  have hmem : ∀ d, d ∈ f.directives.filter (·.fits e) ↔ d ∈ f.directives ∧ d.fits e = true :=
    fun d => List.mem_filter
  rw [deciding?]
  generalize f.directives.filter (·.fits e) = fitting at hmem ⊢
  cases fitting with
  | nil =>
    left
    refine ⟨rfl, fun d hd => ?_⟩
    by_contra hfits
    rw [Bool.not_eq_false] at hfits
    exact absurd ((hmem d).mpr ⟨hd, hfits⟩) List.not_mem_nil
  | cons first rest =>
    right
    obtain ⟨d, hd, hwalk, hlongest⟩ :=
      foldl_stronger_longest rest first fun d hd => h d ((hmem d).mp hd).1
    obtain ⟨hdirective, hfits⟩ := (hmem d).mp hd
    refine ⟨d, hwalk, hdirective, hfits, fun d' hd' hfits' => ?_⟩
    exact hlongest d' ((hmem d').mpr ⟨hd', hfits'⟩)

/-- **With distinct targets one directive decides at most**: targets of one length that begin the
same text are the same. -/
theorem Decides.unique (h : ∀ d ∈ f.directives, d.ForTargets)
    (hdistinct : (f.directives.map Directive.target).Nodup) {e : Event} {d d' : Directive}
    (hd : f.Decides e d) (hd' : f.Decides e d') : d = d' := by
  have hbegins := ((h d hd.mem).fits_iff e).mp hd.fits
  have hbegins' := ((h d' hd'.mem).fits_iff e).mp hd'.fits
  have hle := hd'.longest d hd.mem hd.fits
  have hge := hd.longest d' hd'.mem hd'.fits
  have htarget : d.target = d'.target :=
    (List.prefix_of_prefix_length_le hbegins hbegins' hle).eq_of_length (Nat.le_antisymm hle hge)
  exact List.inj_on_of_nodup_map hdistinct hd.mem hd'.mem htarget

/-- **An event is shown if the directive that decides on it admits its level**, in whatever order
the directives come. -/
theorem shows_iff (h : ∀ d ∈ f.directives, d.ForTargets)
    (hdistinct : (f.directives.map Directive.target).Nodup) (e : Event) :
    f.shows e = true ↔ ∃ d, f.Decides e d ∧ e.level.rank ≤ verbosity d.threshold := by
  rw [shows]
  rcases deciding?_cases (fun d hd => (h d hd).field) e with ⟨hnone, hfits⟩ | ⟨d, hsome, hd⟩
  · rw [hnone]
    constructor
    · intro hfalse
      cases hfalse
    · rintro ⟨d, hd, -⟩
      have hnot := hfits d hd.mem
      rw [hd.fits] at hnot
      cases hnot
  · rw [hsome]
    constructor
    · exact fun hadmits => ⟨d, hd, (d.admits_iff e.level).mp hadmits⟩
    · rintro ⟨d', hd', hrank⟩
      rw [← hd.unique h hdistinct hd'] at hrank
      exact (d.admits_iff e.level).mpr hrank

end Filter
end Log
end InstructionSheet
