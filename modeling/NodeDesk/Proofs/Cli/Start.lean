import NodeDesk.Cli.Run
import NodeDesk.Proofs.Http.Setup
/-!
# Start — how starting the service can end

Once its files are read, `serve` ends in one of three ways: a desk that is ready, a failure that is told of, or a setup
that no desk can be made of.  The last happens to the setups with the star among their origins and to no others
(`serve_broken_iff`).  Such a setup is accepted like any other, since what is checked of a setup says nothing of its
origins.
-/
namespace NodeDesk

namespace Config

/-- **A setup that is loaded is accepted.** -/
theorem fault?_of_ofText {cs : List Char} {c : Config} (h : ofText cs = .ok c) : c.fault? = none := by
  unfold ofText at h
  split at h
  · cases h
  · split at h
    · cases h
    · cases h
      assumption

theorem fault?_of_load {path : String} {files : Files} {c : Config} (h : (load path).run files = .ok c) :
    c.fault? = none := by
  unfold load at h
  rw [Reading.run_bind] at h
  split at h
  · cases h
  · exact fault?_of_ofText h

end Config

namespace Cli

variable (occasion : Occasion) (config : Config) (c : Catalogue) (path : String) (files : Files)

/-- **Which setups break the start**: those that list the star. -/
theorem prepare_broken_iff : prepare occasion config c = .broken ↔ "*" ∈ config.corsOrigins := by
  unfold prepare
  rw [Http.Desk.ofConfig?_eq]
  by_cases h : "*" ∈ config.corsOrigins
  · rw [if_pos h]
    exact iff_of_true rfl h
  · rw [if_neg h]
    refine iff_of_false ?_ h
    cases addressOf occasion config <;> exact fun he => nomatch he

/-- **Which runs of `serve` break**: those whose files are read in full and whose setup lists the star. -/
theorem serve_broken_iff :
    ((serve occasion path).run files).ending = .broken ↔
      ∃ config nodes, (Config.load path).run files = .ok config ∧ (firstNodes config).run files = .ok nodes ∧
        "*" ∈ config.corsOrigins := by
  unfold serve
  rw [Reading.run_bind]
  cases hload : (Config.load path).run files with
  | error p => exact iff_of_false (fun h => nomatch h) fun ⟨_, _, h, _⟩ => nomatch h
  | ok config =>
    dsimp only
    rw [Reading.run_bind]
    cases hnodes : (firstNodes config).run files with
    | error p =>
      refine iff_of_false (fun h => nomatch h) fun ⟨_, _, h, hn, _⟩ => ?_
      cases h
      rw [hnodes] at hn
      cases hn
    | ok nodes =>
      refine (prepare_broken_iff occasion config nodes.1).trans ⟨fun h => ⟨config, nodes, rfl, hnodes, h⟩, ?_⟩
      rintro ⟨_, _, h, -, hstar⟩
      cases h
      exact hstar

theorem code_trace_iff (r : Report) : r.trace.code = 101 ↔ r.ending = .broken := by
  unfold Report.trace
  cases r.ending <;> simp

/-- **The star is all that can break a start.**  Whatever else a setup says, accepted or not, a desk is made of it just
if the star is not among its origins.  So a run of `serve` breaks, with 101 as its number, just if it has loaded such a
setup, which is then an accepted one, and the nodes to begin with. -/
theorem start_breaks_iff (fallback : Bytes) :
    let r := (serve occasion path).run files
    ((∃ d, Http.Desk.ofConfig? config fallback = some d) ↔ "*" ∉ config.corsOrigins) ∧
    (r.trace.code = 101 ↔ r.ending = .broken) ∧
    (r.ending = .broken ↔
      ∃ config nodes, (Config.load path).run files = .ok config ∧ config.fault? = none ∧
        (firstNodes config).run files = .ok nodes ∧ "*" ∈ config.corsOrigins) := by
  intro r
  have hbroken := serve_broken_iff occasion path files
  refine ⟨Http.Desk.exists_ofConfig_iff, code_trace_iff _, hbroken.trans ⟨?_, ?_⟩⟩
  · rintro ⟨config, nodes, hload, hnodes, hstar⟩
    exact ⟨config, nodes, hload, Config.fault?_of_load hload, hnodes, hstar⟩
  · rintro ⟨config, nodes, hload, -, hnodes, hstar⟩
    exact ⟨config, nodes, hload, hnodes, hstar⟩

/-- **An accepted setup that breaks the start**: it is loaded from its file like any other, and says nothing but that
the star may read the answers. -/
theorem accepted_star_breaks :
    let files : Files := fun path =>
      if path = "desk.json" then .ok (Utf8.encode "\x7b\"cors_origins\": [\"*\"]\x7d".toList) else .error .absent
    (∃ config, (Config.load "desk.json").run files = .ok config ∧ config.fault? = none) ∧
      ∀ occasion, ((serve occasion "desk.json").run files).trace.code = 101 := by
  intro files
  have hload : (Config.load "desk.json").run files = .ok { corsOrigins := ["*"] } := by
    have h : ((Config.load "desk.json").run files).toOption = some { corsOrigins := ["*"] } := by decide +kernel
    cases hrun : (Config.load "desk.json").run files with
    | error p => rw [hrun] at h; cases h
    | ok config => rw [hrun] at h; cases h; rfl
  refine ⟨⟨_, hload, Config.fault?_of_load hload⟩, fun occasion => (code_trace_iff _).2 ?_⟩
  exact (serve_broken_iff _ _ _).2 ⟨_, _, hload, rfl, List.mem_singleton_self _⟩

end Cli
end NodeDesk
