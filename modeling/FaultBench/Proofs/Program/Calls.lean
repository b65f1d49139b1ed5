import FaultBench.Proofs.Program.Functions

/-!
# Calls

The functions of a program are called in a chain: `main` calls the outermost frame, each frame the
one below it, and the innermost one the function with the fault. No other chain of calls leads
there, and every function is defined in front of those that call it (`callChain_of_synthesize`).
-/

namespace FaultBench

open Lexis Text

namespace Lexis

namespace Definition

/-- The calls in a body that are calls of these functions. -/
def callsAmong (names : List (List Char)) (d : Definition) : List (List Char) :=
  (callees d.body).filter (· ∈ names)

end Definition

/-- One function of a text calls another one of it. -/
def Calls (ds : List Definition) (caller callee : List Char) : Prop :=
  ∃ d ∈ ds, d.name = caller ∧ callee ∈ d.callsAmong (ds.map Definition.name)

/-- Of these functions, each definition calls such as are known or defined in front of it. -/
def DefinedFirst (names : List (List Char)) : List (List Char) → List Definition → Prop
  | _, [] => True
  | known, d :: ds =>
    (∀ name ∈ d.callsAmong names, name ∈ known) ∧ DefinedFirst names (known ++ [d.name]) ds

namespace DefinedFirst

variable {names known : List (List Char)} {ds es : List Definition}

theorem append (hs : DefinedFirst names known ds)
    (ht : DefinedFirst names (known ++ ds.map Definition.name) es) :
    DefinedFirst names known (ds ++ es) := by
  induction ds generalizing known with
  | nil => rwa [List.map_nil, List.append_nil] at ht
  | cons d ds ih =>
      refine ⟨hs.1, ih hs.2 ?_⟩
      rwa [List.append_assoc]

theorem concat {d : Definition} (hs : DefinedFirst names known ds)
    (hd : ∀ name ∈ d.callsAmong names, name ∈ known ++ ds.map Definition.name) :
    DefinedFirst names known (ds ++ [d]) := hs.append ⟨hd, trivial⟩

theorem of_forall (h : ∀ d ∈ ds, ∀ name ∈ d.callsAmong names, name ∈ known) :
    DefinedFirst names known ds := by
  induction ds generalizing known with
  | nil => trivial
  | cons d ds ih =>
      obtain ⟨hd, hds⟩ := List.forall_mem_cons.mp h
      exact ⟨hd, ih fun e he name hName => List.mem_append_left _ (hds e he name hName)⟩

theorem mem {front back : List Definition} {d : Definition}
    (h : DefinedFirst names known (front ++ d :: back)) {name : List Char}
    (hName : name ∈ d.callsAmong names) : name ∈ known ++ front.map Definition.name := by
  induction front generalizing known with
  | nil =>
      rw [List.map_nil, List.append_nil]
      exact h.1 name hName
  | cons e front ih =>
      have hMem := ih h.2
      rwa [List.append_assoc] at hMem

end DefinedFirst

end Lexis

namespace Synthesis

/-! ## Names -/

/-- The functions of a program in the order in which they are defined. -/
def functionNames (c : FaultClass) (depth : Nat) : List (List Char) :=
  helperNames c ++ (List.range (depth + 1)).map levelName ++ ["main".toList]

variable {c : FaultClass} {v : Variant} {k : Kind} {depth level : Nat} {w : List Char}

theorem levelName_injective : Function.Injective levelName := by
  have hZero : ∀ level, levelName (level + 1) ≠ levelName 0 := by
    intro level hSame
    rw [levelName_succ] at hSame
    exact absurd (List.cons.inj hSame).1 (by decide)
  intro m n h
  cases m with
  | zero =>
      cases n with
      | zero => rfl
      | succ n => exact absurd h.symm (hZero n)
  | succ m =>
      cases n with
      | zero => exact absurd h (hZero m)
      | succ n =>
          rw [levelName_succ, levelName_succ] at h
          have hDigits := List.append_cancel_left h
          have hValue := congrArg Json.digitsValue hDigits
          rwa [Json.digitsValue_toDigits, Json.digitsValue_toDigits] at hValue

theorem levelName_mem (h : level ≤ depth) : levelName level ∈ functionNames c depth :=
  List.mem_append_left _ <| List.mem_append_right _ <|
    List.mem_map_of_mem (List.mem_range.mpr (Nat.lt_succ_of_le h))

/-- The functions of a program that are not frames. -/
def fixedNames (c : FaultClass) : List (List Char) :=
  helperNames c ++ ["trigger_fault".toList, "main".toList]

/-- Names of frames begin as the names of no other functions do. -/
theorem mem_levelNames_iff (h : ¬ "call_depth_".toList <+: w) :
    w ∈ (List.range (depth + 1)).map levelName ↔ w = "trigger_fault".toList := by
  rw [List.mem_map]
  constructor
  · rintro ⟨level, -, rfl⟩
    cases level with
    | zero => rfl
    | succ level => exact absurd (List.prefix_append _ _) h
  · rintro rfl
    exact ⟨0, List.mem_range.mpr (Nat.succ_pos depth), rfl⟩

theorem mem_functionNames_iff (h : ¬ "call_depth_".toList <+: w) :
    w ∈ functionNames c depth ↔ w ∈ fixedNames c := by
  simp only [functionNames, fixedNames, List.mem_append, mem_levelNames_iff h, List.mem_cons,
    or_assoc]

theorem not_mem_functionNames (h : w ∈ libraryNames) : w ∉ functionNames c depth := by
  have hPrefix : ∀ w ∈ libraryNames, ¬ "call_depth_".toList <+: w := by decide
  have hFixed : ∀ w ∈ libraryNames, w ∉ fixedNames c := by
    cases c <;> decide
  rw [mem_functionNames_iff (hPrefix w h)]
  exact hFixed w h

theorem nodup_functionNames (c : FaultClass) (depth : Nat) : (functionNames c depth).Nodup := by
  have hHelpers : (helperNames c).Nodup ∧
      ∀ w ∈ helperNames c, ¬ "call_depth_".toList <+: w ∧ w ≠ "trigger_fault".toList ∧
        w ∉ ["main".toList] := by
    cases c <;> decide
  have hLevels : ((List.range (depth + 1)).map levelName).Nodup :=
    List.nodup_range.map levelName_injective
  have hMain : "main".toList ∉ (List.range (depth + 1)).map levelName := by
    rw [mem_levelNames_iff (by decide)]
    decide
  refine (hHelpers.1.append hLevels fun w hw hLevel => ?_).append (List.nodup_singleton _)
    fun w hw hMem => ?_
  · obtain ⟨hPrefix, hTrigger, -⟩ := hHelpers.2 w hw
    exact hTrigger ((mem_levelNames_iff hPrefix).mp hLevel)
  · rcases List.mem_append.mp hw with hHelper | hLevel
    · exact (hHelpers.2 w hHelper).2.2 hMem
    · exact hMain (List.mem_singleton.mp hMem ▸ hLevel)

theorem names_helperDefinitions (c : FaultClass) (v : Variant) :
    (helperDefinitions c v).map Definition.name = helperNames c := by
  have hLength : (helperNames c).length ≤ (helpers c v).length := by
    cases c <;> exact Nat.le_refl _
  have hNames : (namedHelpers c v).map Prod.fst = helperNames c := List.map_fst_zip hLength
  rw [← hNames, helperDefinitions, List.map_map]
  rfl

theorem names_frontDefinitions (c : FaultClass) (v : Variant) :
    (frontDefinitions c v).map Definition.name =
      helperNames c ++ (List.range (v.callDepth + 1)).map levelName := by
  have hLevels : (List.range (v.callDepth + 1)).map levelName =
      [levelName 0] ++ (List.range' 1 v.callDepth).map levelName := by
    rw [List.range_eq_range', List.range'_succ]
    rfl
  rw [frontDefinitions, List.map_append, List.map_append, names_helperDefinitions, List.map_map,
    hLevels, List.append_assoc]
  rfl

theorem names_definitions (v : Variant) (k : Kind) :
    (definitions v k).map Definition.name = functionNames k.faultClass v.callDepth := by
  rw [definitions, List.map_append, names_frontDefinitions, functionNames]
  rfl

/-! ## What each function calls -/

theorem callsAmong_ofFunction {name : List Char} {f : Function} {calls names : List (List Char)}
    (h : Stretch (f.body.flatMap Line.chars) 0 0 calls) :
    (Definition.ofFunction name f).callsAmong names = calls.filter (· ∈ names) :=
  congrArg (List.filter _) h.calls_eq

theorem callsAmong_helper {p : List Char × Function} (hp : p ∈ namedHelpers c v) :
    (Definition.ofFunction p.1 p.2).callsAmong (functionNames c depth) = [] := by
  obtain ⟨-, calls, hCalls, hBody⟩ := reads_helpers c v p hp
  rw [callsAmong_ofFunction hBody, List.filter_eq_nil_iff]
  intro w hw
  rw [decide_eq_true_eq]
  exact not_mem_functionNames (hCalls hw)

/-- The fault calls the helpers of its class. -/
theorem callsAmong_site : (Definition.ofFunction (levelName 0) (faultSite c v)).callsAmong
    (functionNames c depth) = helperNames c := by
  have hSite : (∀ w ∈ siteCalls c v, ¬ "call_depth_".toList <+: w) ∧
      (siteCalls c v).filter (· ∈ fixedNames c) = helperNames c := by
    unfold siteCalls
    cases v.spinForever <;> cases c <;> decide
  rw [callsAmong_ofFunction (stretch_faultSite c v), ← hSite.2]
  refine List.filter_congr fun w hw => ?_
  rw [decide_eq_decide]
  exact mem_functionNames_iff (hSite.1 w hw)

theorem callsAmong_frame (h : level ≤ depth) :
    (frameDefinition (level + 1)).callsAmong (functionNames c depth) = [levelName level] := by
  rw [frameDefinition, callsAmong_ofFunction (stretch_frame (level + 1)), Nat.add_sub_cancel]
  exact List.filter_cons_of_pos (decide_eq_true (levelName_mem h))

theorem callsAmong_main (id : KindId) :
    (Definition.ofFunction "main".toList (mainFunction id depth)).callsAmong
      (functionNames c depth) = [levelName depth] := by
  have hPrint : "printf".toList ∉ functionNames c depth := not_mem_functionNames (by decide)
  have hFlush : "fflush".toList ∉ functionNames c depth := not_mem_functionNames (by decide)
  have hLevel : levelName depth ∈ functionNames c depth := levelName_mem (Nat.le_refl depth)
  rw [callsAmong_ofFunction (stretch_mainBody id depth)]
  simp only [List.filter_cons, List.filter_nil, hPrint, hFlush, hLevel, decide_false, decide_true,
    Bool.false_eq_true, if_false, if_true]

/-! ## The order of the definitions -/

theorem definedFirst_frames {known : List (List Char)} {n : Nat}
    (hLevels : level + n ≤ depth) (hKnown : levelName level ∈ known) :
    DefinedFirst (functionNames c depth) known
      ((List.range' (level + 1) n).map frameDefinition) := by
  induction n generalizing level known with
  | zero => trivial
  | succ n ih =>
      rw [List.range'_succ, List.map_cons]
      refine ⟨?_, ih (by omega) (List.mem_append_right _ (List.mem_singleton_self _))⟩
      rw [callsAmong_frame (by omega)]
      exact List.forall_mem_singleton.mpr hKnown

theorem definedFirst_definitions (v : Variant) (k : Kind) :
    DefinedFirst (functionNames k.faultClass v.callDepth) [] (definitions v k) := by
  have hHelpers : DefinedFirst (functionNames k.faultClass v.callDepth) []
      (helperDefinitions k.faultClass v) := by
    refine .of_forall fun d hd => ?_
    obtain ⟨p, hp, rfl⟩ := List.mem_map.mp hd
    rw [callsAmong_helper hp]
    exact List.forall_mem_nil _
  refine .concat (.append (.concat hHelpers ?site) (definedFirst_frames ?depth ?trigger)) ?main
  case site =>
    rw [callsAmong_site, names_helperDefinitions]
    exact fun _ => id
  case depth => exact Nat.le_of_eq (Nat.zero_add _)
  case trigger =>
    rw [List.map_append]
    exact List.mem_append_right _ (List.mem_append_right _ (List.mem_singleton_self _))
  case main =>
    have hNames := names_frontDefinitions k.faultClass v
    rw [callsAmong_main, List.forall_mem_singleton, List.nil_append]
    exact hNames ▸ List.mem_append_right _ (List.mem_map_of_mem List.self_mem_range_succ)

/-! ## The chain of calls -/

theorem definition_inj {d e : Definition} (hd : d ∈ definitions v k) (he : e ∈ definitions v k)
    (h : d.name = e.name) : d = e := by
  have hNodup := nodup_functionNames k.faultClass v.callDepth
  rw [← names_definitions] at hNodup
  exact List.inj_on_of_nodup_map hNodup hd he h

/-- A function calls what is called in its definition. -/
theorem calls_iff {d : Definition} (hd : d ∈ definitions v k) :
    Calls (definitions v k) d.name w ↔
      w ∈ d.callsAmong (functionNames k.faultClass v.callDepth) := by
  rw [← names_definitions]
  constructor
  · rintro ⟨e, he, hName, hCall⟩
    exact definition_inj he hd hName ▸ hCall
  · exact fun hCall => ⟨d, hd, rfl, hCall⟩

theorem mem_definitions_frame (h : level < v.callDepth) :
    frameDefinition (level + 1) ∈ definitions v k := by
  have hMem : level + 1 ∈ List.range' 1 v.callDepth := by
    rw [List.mem_range'_1]
    omega
  exact List.mem_append_left _ (List.mem_append_right _ (List.mem_map_of_mem hMem))

theorem mem_definitions_main (v : Variant) (k : Kind) :
    .ofFunction "main".toList (mainFunction k.id v.callDepth) ∈ definitions v k :=
  List.mem_append_right _ (List.mem_singleton_self _)

theorem calls_main_iff : Calls (definitions v k) "main".toList w ↔ w = levelName v.callDepth := by
  have hCalls := calls_iff (w := w) (mem_definitions_main v k)
  rwa [callsAmong_main, List.mem_singleton] at hCalls

theorem calls_frame_iff (h : level < v.callDepth) :
    Calls (definitions v k) (levelName (level + 1)) w ↔ w = levelName level := by
  have hCalls := calls_iff (w := w) (mem_definitions_frame (k := k) h)
  rwa [callsAmong_frame (Nat.le_of_lt h), List.mem_singleton] at hCalls

theorem calls_site_iff :
    Calls (definitions v k) (levelName 0) w ↔ w ∈ helperNames k.faultClass := by
  have hSite : .ofFunction (levelName 0) (faultSite k.faultClass v) ∈ definitions v k :=
    List.mem_append_left _ (List.mem_append_left _
      (List.mem_append_right _ (List.mem_singleton_self _)))
  have hCalls := calls_iff (w := w) hSite
  rwa [callsAmong_site] at hCalls

theorem not_calls_helper {helper : List Char} (h : helper ∈ helperNames k.faultClass) :
    ¬ Calls (definitions v k) helper w := by
  rw [← names_helperDefinitions k.faultClass v] at h
  obtain ⟨d, hd, rfl⟩ := List.mem_map.mp h
  have hMem : d ∈ definitions v k :=
    List.mem_append_left _ (List.mem_append_left _ (List.mem_append_left _ hd))
  obtain ⟨p, hp, rfl⟩ := List.mem_map.mp hd
  rw [calls_iff hMem, callsAmong_helper hp]
  exact List.not_mem_nil

/-- The functions from the frame at `level` down to the one with the fault. -/
def framesFrom (level : Nat) : List (List Char) := ((List.range (level + 1)).map levelName).reverse

theorem framesFrom_succ (level : Nat) :
    framesFrom (level + 1) = levelName (level + 1) :: framesFrom level := by
  rw [framesFrom, List.range_succ, List.map_append, List.reverse_append]
  rfl

theorem head?_framesFrom (level : Nat) : (framesFrom level).head? = some (levelName level) := by
  cases level with
  | zero => rfl
  | succ level => rw [framesFrom_succ, List.head?_cons]

theorem isChain_framesFrom (h : level ≤ v.callDepth) :
    (framesFrom level).IsChain (Calls (definitions v k)) := by
  induction level with
  | zero => exact .singleton _
  | succ level ih =>
      rw [framesFrom_succ, List.isChain_cons, head?_framesFrom]
      refine ⟨fun name hName => ?_, ih (Nat.le_of_succ_le h)⟩
      obtain rfl := Option.some.inj hName
      exact (calls_frame_iff h).mpr rfl

/-- What is called at the fault calls nothing that leads back there. -/
theorem eq_singleton_of_isChain {rest : List (List Char)}
    (hChain : (levelName 0 :: rest).IsChain (Calls (definitions v k)))
    (hLast : (levelName 0 :: rest).getLast? = some (levelName 0)) : rest = [] := by
  have hOwn : levelName 0 ∉ helperNames k.faultClass := by
    cases k.faultClass <;> decide
  match rest with
  | [] => rfl
  | [helper] =>
      have hCall := calls_site_iff.mp (List.isChain_cons_cons.mp hChain).1
      exact absurd (Option.some.inj hLast ▸ hCall) hOwn
  | helper :: next :: rest =>
      obtain ⟨hCall, hRest⟩ := List.isChain_cons_cons.mp hChain
      have hNext := (List.isChain_cons_cons.mp hRest).1
      exact absurd hNext (not_calls_helper (calls_site_iff.mp hCall))

theorem eq_framesFrom {path : List (List Char)} (h : level ≤ v.callDepth)
    (hHead : path.head? = some (levelName level)) (hLast : path.getLast? = some (levelName 0))
    (hChain : path.IsChain (Calls (definitions v k))) : path = framesFrom level := by
  -- On the level: what a frame calls begins such a chain again.
  induction level generalizing path with
  | zero =>
      obtain ⟨rest, rfl⟩ := List.head?_eq_some_iff.mp hHead
      rw [eq_singleton_of_isChain hChain hLast]
      rfl
  | succ level ih =>
      obtain ⟨rest, rfl⟩ := List.head?_eq_some_iff.mp hHead
      cases rest with
      | nil => exact absurd (levelName_injective (Option.some.inj hLast)) (Nat.succ_ne_zero level)
      | cons next rest =>
          obtain ⟨hCall, hRest⟩ := List.isChain_cons_cons.mp hChain
          obtain rfl := (calls_frame_iff h).mp hCall
          rw [List.getLast?_cons_cons] at hLast
          rw [framesFrom_succ, ih (Nat.le_of_succ_le h) rfl hLast hRest]

/-- The functions of a text are those of a program of the class, each behind those that it calls,
and through all frames a chain of calls leads from `main` to the fault. -/
structure CallChain (ds : List Definition) (c : FaultClass) (depth : Nat) : Prop where
  names_eq : ds.map Definition.name = functionNames c depth
  nodup : (ds.map Definition.name).Nodup
  frames : ∀ level < depth, ⟨levelName (level + 1), callTokens (levelName level)⟩ ∈ ds
  main_calls : ∀ d ∈ ds, d.name = "main".toList →
    d.callsAmong (ds.map Definition.name) = [levelName depth]
  defined_first : ∀ front d back, ds = front ++ d :: back →
    ∀ name ∈ d.callsAmong (ds.map Definition.name), name ∈ front.map Definition.name
  /-- No other calls lead from `main` to the fault. -/
  reached : ∀ path : List (List Char),
    path.head? = some "main".toList → path.getLast? = some (levelName 0) →
      (path.IsChain (Calls ds) ↔ path = "main".toList :: framesFrom depth)

theorem callChain_definitions (v : Variant) (k : Kind) :
    CallChain (definitions v k) k.faultClass v.callDepth where
  names_eq := names_definitions v k
  nodup := names_definitions v k ▸ nodup_functionNames _ _
  frames := fun level hLevel => by
    have hMem := mem_definitions_frame (k := k) hLevel
    have hBody : tokens ((frame (level + 1)).body.flatMap Line.chars) =
        callTokens (levelName level) :=
      (congrArg tokens (List.flatMap_singleton _ _)).trans (reads_callLine level).2
    rwa [frameDefinition, Definition.ofFunction, hBody] at hMem
  main_calls := fun d hd hName => by
    rw [definition_inj hd (mem_definitions_main v k) hName, names_definitions, callsAmong_main]
  defined_first := fun front d back hSplit name hName => by
    have hFirst := definedFirst_definitions v k
    rw [hSplit] at hFirst
    rw [names_definitions] at hName
    exact hFirst.mem hName
  reached := fun path hHead hLast => by
    constructor
    · intro hChain
      obtain ⟨rest, rfl⟩ := List.head?_eq_some_iff.mp hHead
      cases rest with
      | nil => exact absurd (Option.some.inj hLast) (by decide)
      | cons next rest =>
          obtain ⟨hCall, hRest⟩ := List.isChain_cons_cons.mp hChain
          obtain rfl := calls_main_iff.mp hCall
          rw [List.getLast?_cons_cons] at hLast
          rw [eq_framesFrom (Nat.le_refl _) rfl hLast hRest]
    · rintro rfl
      rw [List.isChain_cons, head?_framesFrom]
      refine ⟨fun name hName => ?_, isChain_framesFrom (Nat.le_refl _)⟩
      obtain rfl := Option.some.inj hName
      exact calls_main_iff.mpr rfl

end Synthesis

namespace Kind

variable {k : Kind} {v : Variant} {p : Program}

/-- **Calls lead to the fault through as many frames as the variant asks for.** -/
theorem callChain_of_synthesize (h : k.synthesize v = .ok p) :
    Synthesis.CallChain (functions p.source.toList) k.faultClass v.callDepth := by
  obtain ⟨-, rfl⟩ := synthesize_eq_ok_iff.mp h
  have hText : (Synthesis.source k v).text.toList = (Synthesis.source k v).chars :=
    String.toList_ofList
  have hChain := Synthesis.callChain_definitions v k
  rw [← Synthesis.functions_source, ← hText] at hChain
  exact hChain

/-- So they do in a program whose kind is called as one of the frames is. -/
theorem callChain_of_synthesize_like_frame : ∃ (k : Kind) (v : Variant) (p : Program),
    k.id.text = "call_depth_1" ∧ k.synthesize v = .ok p ∧
      Synthesis.CallChain (functions p.source.toList) .stackBufferOverflow 2 := by
  have hRange : Variant.InRange { callDepth := 2, spinForever := true } .stackBufferOverflow := by
    decide
  have hWord : IsWord "call_depth_1".toList := by decide
  obtain ⟨p, hp⟩ := (exists_synthesize_iff
    (k := { builtin .stackBufferOverflow with id := ⟨"call_depth_1", by decide, hWord⟩ })
    (v := { callDepth := 2, spinForever := true })).mpr hRange
  exact ⟨_, _, p, rfl, hp, callChain_of_synthesize hp⟩

end Kind

end FaultBench
