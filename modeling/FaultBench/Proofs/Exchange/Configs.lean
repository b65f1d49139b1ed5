import FaultBench.Exchange.Config
import FaultBench.Proofs.Exchange.Kinds

/-!
# Configurations, written and read

The exchanged form of a configuration is read back (`Config.recovers`). Its numbers must have the
sizes of their fields, and the variables of its environment must stand in the order of their names,
each of them once.
-/

namespace FaultBench

open Decoder

variable {n : Nat}

/-! ## Environments -/

namespace Environment

/-- The variables stand in the order of their names, each of them once. -/
def Ordered (env : Environment) : Prop := env.Pairwise fun kv kv' => kv.1 < kv'.1

theorem insert_of_forall_lt {env : Environment} {k v : String} (h : ∀ kv ∈ env, kv.1 < k) :
    env.insert k v = env ++ [(k, v)] := by
  induction env with
  | nil => rfl
  | cons kv env ih =>
      obtain ⟨hLt, hRest⟩ := List.forall_mem_cons.mp h
      rw [insert, if_neg (String.lt_asymm hLt), if_neg (fun hEq => String.lt_irrefl _ (hEq ▸ hLt)),
        ih hRest, List.cons_append]

theorem foldl_insert {d env : Environment} (h : (d ++ env).Ordered) :
    env.foldl (fun e kv => Environment.insert kv.1 kv.2 e) d = d ++ env := by
  induction env generalizing d with
  | nil => rw [List.foldl_nil, List.append_nil]
  | cons kv env ih =>
      have hLast : ∀ kv' ∈ d, kv'.1 < kv.1 := fun kv' hkv' =>
        (List.pairwise_append.mp h).2.2 kv' hkv' kv List.mem_cons_self
      rw [List.append_cons] at h ⊢
      rw [List.foldl_cons, insert_of_forall_lt hLast, ih h]

/-- Variables that are set in their order stay as they are. -/
theorem ofPairs_of_ordered {env : Environment} (h : env.Ordered) : ofPairs env = env :=
  foldl_insert (d := []) h

theorem recovers {env : Environment} (h : env.Ordered) :
    Recovers decoder (n + 1) env.toDatum env := by
  refine ⟨fun d => ?_, .fields fun kv hkv => ?_⟩
  · have hPairs : (env.map fun kv => (kv.1, Datum.text kv.2)).mapM
        (fun kv => (Decoder.text d kv.2).map (kv.1, ·)) = some env := by
      rw [List.mapM_map]
      exact (List.mapM_pure).trans (congrArg some (List.map_id _))
    rw [toDatum, decoder, hPairs, Option.map_some, ofPairs_of_ordered h]
  · obtain ⟨kv, -, rfl⟩ := List.mem_map.mp hkv
    exact .text _

end Environment

/-! ## Sections -/

namespace KindEntry

/-- The numbers of the entry's patch have the sizes of their fields. -/
def Writable (e : KindEntry) : Prop := e.variant.Writable

theorem recovers {e : KindEntry} (h : e.Writable) : Recovers decoder (n + 2) e.toDatum e := by
  have hClass := Recovers.ofOption (n := n + 1) (o := e.faultClass)
    (fun c _ => FaultClass.recovers c) nofun
  have hSignature := Recovers.ofOption (n := n + 1) (o := e.signature) (fun s _ => .text s) nofun
  have hMode := Recovers.ofOption (n := n + 1) (o := e.matchMode)
    (fun m _ => MatchMode.recovers m) nofun
  have hPatch := VariantPatch.recovers (n := n) h
  refine ⟨fun d => ?_, .fields ?_⟩
  · simp [decoder, toDatum, hClass.reads, hSignature.reads, hMode.reads, hPatch.reads]
  · simp [hClass.fits, hSignature.fits, hMode.fits, hPatch.fits]

end KindEntry

namespace ToolSection

structure Writable (t : ToolSection) : Prop where
  env : t.env.Ordered
  timeoutSecs : IsNat64 t.timeoutSecs
  compileTimeoutSecs : IsNat64 t.compileTimeoutSecs
  maxOutputBytes : IsNat64 t.maxOutputBytes
  cpuLimitSecs : ∀ k ∈ t.cpuLimitSecs, IsNat64 k

theorem recovers {t : ToolSection} (h : t.Writable) : Recovers decoder (n + 2) t.toDatum t := by
  have hFlags := Recovers.texts (n := n) t.flags
  have hEnv := Environment.recovers (n := n) h.env
  have hWrapper := Recovers.texts (n := n) t.runWrapper
  have hTimeout := Recovers.nat64 (n := n + 1) h.timeoutSecs
  have hCompile := Recovers.nat64 (n := n + 1) h.compileTimeoutSecs
  have hOutput := Recovers.nat64 (n := n + 1) h.maxOutputBytes
  have hCpu := Recovers.ofOption (n := n + 1) (fun k hk => .nat64 (h.cpuLimitSecs k hk)) nofun
  refine ⟨fun d => ?_, .fields ?_⟩
  · simp [decoder, toDatum, hFlags.reads, hEnv.reads, hWrapper.reads, hTimeout.reads,
      hCompile.reads, hOutput.reads, hCpu.reads]
  · simp [hFlags.fits, hEnv.fits, hWrapper.fits, hTimeout.fits, hCompile.fits, hOutput.fits,
      hCpu.fits]

end ToolSection

def PipelineSection.Writable (p : PipelineSection) : Prop := IsNat64 p.parallelism

theorem PipelineSection.recovers {p : PipelineSection} (h : p.Writable) :
    Recovers decoder (n + 1) p.toDatum p := by
  have hParallelism := Recovers.nat64 (n := n) h
  refine ⟨fun d => ?_, .fields ?_⟩
  · simp [decoder, toDatum, hParallelism.reads]
  · simp [hParallelism.fits]

namespace Config

structure Writable (c : Config) : Prop where
  toolchain : c.toolchain.Writable
  pipeline : c.pipeline.Writable
  kinds : ∀ e ∈ c.kinds, e.Writable

theorem recovers {c : Config} (h : c.Writable) : Recovers decoder (n + 4) c.toDatum c := by
  have hTools := ToolSection.recovers (n := n + 1) h.toolchain
  have hPipeline := PipelineSection.recovers (n := n + 2) h.pipeline
  have hKinds := Recovers.list (n := n + 2) (l := c.kinds) fun e he =>
    KindEntry.recovers (h.kinds e he)
  refine ⟨fun d => ?_, .fields ?_⟩
  · simp [decoder, toDatum, hTools.reads, hPipeline.reads, hKinds.reads]
  · simp [hTools.fits, hPipeline.fits, hKinds.fits]

end Config

end FaultBench
