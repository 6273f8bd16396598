/-
# The options of a dump

`kernel/dump.c`.  `vdo_dump` parses the arguments of a dump message with
`parse_dump_options` and, when every argument names an option, dumps what the options
select with `do_dump`; `vdo_dump_all` dumps with every flag set (`~0`).

An argument names an option when the option's name starts it, in any case
(`is_arg_string`: `strncasecmp(arg, name, strlen(name)) == 0`), and the first such name of
`option_names` gives the argument's flags.  Every flag set of the table carries
`FLAG_SKIP_DEFAULT`, which keeps `DEFAULT_DUMP_FLAGS` out once any option is given:

| names | flags besides `FLAG_SKIP_DEFAULT` |
| --- | --- |
| `dedupe`, `dedupeq`, `kvdodedupeq` | `FLAG_SHOW_ALBIREO_QUEUE` |
| `bioack`, `kvdobioackq`, `bioackq` | `FLAG_SHOW_BIO_ACK_QUEUE` |
| `bio`, `kvdobioq`, `bioq` | `FLAG_SHOW_BIO_QUEUE` |
| `cpu`, `kvdocpuq`, `cpuq` | `FLAG_SHOW_CPU_QUEUES` |
| `request`, `kvdoreqq`, `reqq` | `FLAG_SHOW_REQUEST_QUEUE` |
| `viopool`, `pools` | `FLAG_SHOW_VIO_POOL` |
| `vdo` | `FLAG_SHOW_VDO_STATUS` |
| `queues`, `threads` | `FLAGS_ALL_QUEUES` |
| `default` | `DEFAULT_DUMP_FLAGS` |
| `all` | `~0`, every flag |

* `parseDumpOptions_spec`: the names logged as unknown are the arguments that name no
  option; the parse fails with `-EINVAL` exactly when there is one, and otherwise gives
  the defaults for no argument and exactly the union of the arguments' flags for any.
* `findDumpOption_longest`: the first matching name decides, and no name is shadowed by
  a shorter one listed before it with other flags (`bioack` comes before `bio`), so an
  argument gets the flags of the longest option name it starts with.
* `vdoDump_all`: a dump message with an `all` argument dumps what `vdo_dump_all` dumps.

`strncasecmp` lowers letters with the kernel's `tolower`, which also folds Latin-1 capitals;
`Char.toLower` folds only ASCII ones.  No option name holds a letter outside ASCII, so an
argument starts a name under one exactly when it does under the other.

The arguments are Lean strings, so an argument whose bytes are not UTF-8, which the kernel
may pass, is outside the model.
-/

import Kvdo.Status

namespace Kvdo

/-- `enum dumpOptions`: what a dump can show, and `SKIP_DEFAULT`. -/
inductive DumpOptions where
  | showAlbireoQueue
  | showBioAckQueue
  | showBioQueue
  | showCpuQueues
  | showRequestQueue
  | showVioPool
  | showVdoStatus
  | skipDefault
  deriving DecidableEq, Repr

namespace DumpOptions

/-- The value of each member of `enum dumpOptions`. -/
def toNat : DumpOptions → Nat
  | showAlbireoQueue => 0
  | showBioAckQueue => 1
  | showBioQueue => 2
  | showCpuQueues => 3
  | showRequestQueue => 4
  | showVioPool => 5
  | showVdoStatus => 6
  | skipDefault => 7

/-- `enum dump_option_flags`: `FLAG_SHOW_ALBIREO_QUEUE = (1 << SHOW_ALBIREO_QUEUE)`, and
so on, as an `unsigned int`. -/
def flag (o : DumpOptions) : BitVec 32 := 1#32 <<< o.toNat

end DumpOptions

open DumpOptions

/-- `FLAGS_ALL_POOLS`. -/
def flagsAllPools : BitVec 32 := flag showVioPool

/-- `FLAGS_ALL_QUEUES`. -/
def flagsAllQueues : BitVec 32 :=
  flag showRequestQueue ||| flag showAlbireoQueue ||| flag showBioAckQueue ||| flag showBioQueue |||
    flag showCpuQueues

/-- `FLAGS_ALL_THREADS`. -/
def flagsAllThreads : BitVec 32 := flagsAllQueues

/-- `DEFAULT_DUMP_FLAGS`. -/
def defaultDumpFlags : BitVec 32 := flagsAllThreads ||| flag showVdoStatus

/-- `option_names` of `parse_dump_options`, in order. -/
def optionNames : List (String × BitVec 32) :=
  [("dedupe", flag skipDefault ||| flag showAlbireoQueue),
   ("dedupeq", flag skipDefault ||| flag showAlbireoQueue),
   ("kvdodedupeq", flag skipDefault ||| flag showAlbireoQueue),
   ("bioack", flag skipDefault ||| flag showBioAckQueue),
   ("kvdobioackq", flag skipDefault ||| flag showBioAckQueue),
   ("bioackq", flag skipDefault ||| flag showBioAckQueue),
   ("bio", flag skipDefault ||| flag showBioQueue),
   ("kvdobioq", flag skipDefault ||| flag showBioQueue),
   ("bioq", flag skipDefault ||| flag showBioQueue),
   ("cpu", flag skipDefault ||| flag showCpuQueues),
   ("kvdocpuq", flag skipDefault ||| flag showCpuQueues),
   ("cpuq", flag skipDefault ||| flag showCpuQueues),
   ("request", flag skipDefault ||| flag showRequestQueue),
   ("kvdoreqq", flag skipDefault ||| flag showRequestQueue),
   ("reqq", flag skipDefault ||| flag showRequestQueue),
   ("viopool", flag skipDefault ||| flag showVioPool),
   ("vdo", flag skipDefault ||| flag showVdoStatus),
   ("pools", flag skipDefault ||| flagsAllPools),
   ("queues", flag skipDefault ||| flagsAllQueues),
   ("threads", flag skipDefault ||| flagsAllThreads),
   ("default", flag skipDefault ||| defaultDumpFlags),
   ("all", ~~~0#32)]

/-- `is_arg_string`: `strncasecmp(arg, thisOption, strlen(thisOption)) == 0`, the option
starts the argument, letters compared in lower case. -/
def isArgString (arg thisOption : String) : Bool :=
  (thisOption.toList.map Char.toLower).isPrefixOf (arg.toList.map Char.toLower)

/-- The inner loop of `parse_dump_options`: the first entry of `option_names` whose name
starts the argument. -/
def findDumpOption (arg : String) : Option (String × BitVec 32) :=
  optionNames.find? fun o => isArgString arg o.1

/-- What the loop of `parse_dump_options` keeps: `dump_options_requested`,
`options_okay`, and the arguments it has logged as unknown. -/
structure DumpParse where
  requested : BitVec 32
  optionsOkay : Bool
  unknown : List String
  deriving DecidableEq, Repr

/-- One argument of `parse_dump_options`: add the flags of the option it names, or log
it (`dump option name '%s' unknown`) and clear `options_okay`. -/
def parseDumpArg (s : DumpParse) (arg : String) : DumpParse :=
  match findDumpOption arg with
  | some o => { s with requested := s.requested ||| o.2 }
  | none => { s with optionsOkay := false, unknown := s.unknown ++ [arg] }

/-- `parse_dump_options`, over `argv[1]` to `argv[argc - 1]`: the arguments logged as
unknown, and `-EINVAL` or the flags written to `*dump_options_requested_ptr`. -/
def parseDumpOptions (argv : List String) : List String × Except Int (BitVec 32) :=
  let s := argv.tail.foldl parseDumpArg ⟨0, true, []⟩
  (s.unknown,
    if !s.optionsOkay then .error (-einval)
    else .ok (if s.requested &&& flag skipDefault = 0 then s.requested ||| defaultDumpFlags
      else s.requested))

/-- What `do_dump` logs and dumps, in order. -/
inductive DumpAction where
  /-- `%s dump triggered via %s`. -/
  | triggered (why : String)
  /-- The counts of outstanding device and bio requests. -/
  | requestsOutstanding
  /-- `dumpKVDOWorkQueue`. -/
  | kvdoWorkQueue
  /-- `dumpBioWorkQueue`. -/
  | bioWorkQueue
  /-- `dump_work_queue` of the bio acknowledgement queue. -/
  | bioAckQueue
  /-- `dump_work_queue` of the CPU queue. -/
  | cpuQueue
  /-- `dumpDedupeIndex`, showing its queue or not. -/
  | dedupeIndex (showQueue : Bool)
  /-- `dump_buffer_pool` of the data vio pool, showing its vios or not. -/
  | dataVioPool (showVios : Bool)
  /-- `dumpKVDOStatus`. -/
  | kvdoStatus
  /-- `reportMemoryUsage`. -/
  | memoryUsage
  /-- `end of %s dump`. -/
  | endOfDump
  deriving DecidableEq, Repr

/-- `do_dump`, for a layer that uses a bio acknowledgement queue or not. -/
def doDump (useBioAckQueue : Bool) (requested : BitVec 32) (why : String) : List DumpAction :=
  let shows (o : DumpOptions) : Bool := requested &&& flag o != 0
  [.triggered why, .requestsOutstanding] ++
    (if shows showRequestQueue then [.kvdoWorkQueue] else []) ++
    (if shows showBioQueue then [.bioWorkQueue] else []) ++
    (if useBioAckQueue && shows showBioAckQueue then [.bioAckQueue] else []) ++
    (if shows showCpuQueues then [.cpuQueue] else []) ++
    [.dedupeIndex (shows showAlbireoQueue), .dataVioPool (shows showVioPool)] ++
    (if shows showVdoStatus then [.kvdoStatus] else []) ++
    [.memoryUsage, .endOfDump]

/-- `vdo_dump`: the arguments logged as unknown, and `-EINVAL` or what is dumped. -/
def vdoDump (useBioAckQueue : Bool) (argv : List String) (why : String) :
    List String × Except Int (List DumpAction) :=
  let r := parseDumpOptions argv
  (r.1, r.2.map fun requested => doDump useBioAckQueue requested why)

/-- `vdo_dump_all`: `do_dump(layer, ~0, why)`. -/
def vdoDumpAll (useBioAckQueue : Bool) (why : String) : List DumpAction :=
  doDump useBioAckQueue (~~~0#32) why

/-! ### The option table -/

/-- Every flag set of the table carries `FLAG_SKIP_DEFAULT`. -/
theorem optionNames_skipDefault : ∀ o ∈ optionNames, o.2.getLsbD 7 = true := by decide

/-- A name listed before a longer name it starts has the same flags. -/
theorem optionNames_prefix_flags :
    optionNames.Pairwise fun o o' => isArgString o'.1 o.1 → o.2 = o'.2 := by decide

/-- The only name starting with `all` is `all`, with every flag. -/
theorem optionNames_all : ∀ o ∈ optionNames, isArgString o.1 "all" → o.2 = ~~~0#32 := by
  decide

/-! ### Flags -/

theorem getLsbD_skipDefault : ∀ i : Fin 32, (flag skipDefault).getLsbD i = decide (i.val = 7) := by
  decide

theorem and_skipDefault_eq_zero (x : BitVec 32) :
    x &&& flag skipDefault = 0 ↔ x.getLsbD 7 = false := by
  constructor
  · intro h
    simpa [getLsbD_skipDefault ⟨7, by omega⟩] using congrArg (BitVec.getLsbD · 7) h
  · intro h
    apply BitVec.eq_of_getLsbD_eq
    intro i
    by_cases hi : i.val = 7
    · simp [getLsbD_skipDefault, hi, h]
    · simp [getLsbD_skipDefault, hi]

theorem getLsbD_foldl_or (l : List (BitVec 32)) (acc : BitVec 32) (i : Nat) :
    (l.foldl (· ||| ·) acc).getLsbD i = (acc.getLsbD i || l.any fun x => x.getLsbD i) := by
  induction l generalizing acc with
  | nil => simp
  | cons x l ih => simp [ih, Bool.or_assoc]

/-- The union of flag sets one of which is every flag is every flag. -/
theorem foldl_or_allOnes {l : List (BitVec 32)} (h : ~~~0#32 ∈ l) (acc : BitVec 32) :
    l.foldl (· ||| ·) acc = ~~~0#32 := by
  apply BitVec.eq_of_getLsbD_eq
  intro i
  have hall : ∀ i : Fin 32, (~~~0#32).getLsbD i = true := by decide
  rw [getLsbD_foldl_or, hall i, List.any_eq_true.2 ⟨_, h, hall i⟩, Bool.or_true]

/-! ### The parse -/

/-- The loop of `parse_dump_options` over a list of arguments. -/
theorem foldl_parseDumpArg (args : List String) (s : DumpParse) :
    args.foldl parseDumpArg s =
      { requested := (args.filterMap fun a => (findDumpOption a).map Prod.snd).foldl (· ||| ·)
          s.requested
        optionsOkay := s.optionsOkay && args.all fun a => (findDumpOption a).isSome
        unknown := s.unknown ++ args.filter fun a => (findDumpOption a).isNone } := by
  induction args generalizing s with
  | nil => simp
  | cons a args ih =>
    rw [List.foldl_cons, ih]
    rcases h : findDumpOption a with _ | o <;> simp [parseDumpArg, h]

/-- **What `parse_dump_options` returns.**  For every argument vector: the names logged as
unknown are exactly the arguments after the command that name no option, in order; the
parse fails with `-EINVAL` exactly when there is one; and otherwise it gives the default
flags when there is no argument and exactly the union of the arguments' option flags
when there is one, the defaults left out. -/
theorem parseDumpOptions_spec (argv : List String) :
    (parseDumpOptions argv).1 = argv.tail.filter (fun a => (findDumpOption a).isNone) ∧
      (parseDumpOptions argv).2 =
        if argv.tail.all fun a => (findDumpOption a).isSome then
          .ok (if argv.tail = [] then defaultDumpFlags
            else (argv.tail.filterMap fun a => (findDumpOption a).map Prod.snd).foldl (· ||| ·) 0)
        else .error (-einval) := by
  simp only [parseDumpOptions, foldl_parseDumpArg, List.nil_append, Bool.true_and, true_and]
  cases hall : argv.tail.all fun a => (findDumpOption a).isSome
  · rfl
  by_cases hnil : argv.tail = []
  · simp [hnil]
  have hskip : (argv.tail.filterMap fun a => (findDumpOption a).map Prod.snd).foldl (· ||| ·) 0 &&&
      flag skipDefault ≠ 0 := by
    obtain ⟨a, ha⟩ := List.exists_mem_of_ne_nil _ hnil
    obtain ⟨o, hfind⟩ := Option.isSome_iff_exists.1 (List.all_eq_true.1 hall a ha)
    have hany : ((argv.tail.filterMap fun a => (findDumpOption a).map Prod.snd).any
        fun x => x.getLsbD 7) = true := List.any_eq_true.2 ⟨o.2,
      List.mem_filterMap.2 ⟨a, ha, by simp [hfind]⟩,
      optionNames_skipDefault o (List.mem_of_find?_eq_some hfind)⟩
    rw [Ne, and_skipDefault_eq_zero, getLsbD_foldl_or, hany, Bool.or_true]
    exact Bool.noConfusion
  rw [Bool.not_true, if_neg Bool.false_ne_true, if_neg hskip, if_pos rfl, if_neg hnil]

theorem length_map_toLower (s : String) : (s.toList.map Char.toLower).length = s.length := by
  cases s; simp [String.toList, String.length]

/-- The first name that starts an argument has the flags of any other name that starts
it, or is strictly longer and extends that other name. -/
theorem findDumpOption_of_match {arg : String} {o : String × BitVec 32} (ho : o ∈ optionNames)
    (hm : isArgString arg o.1 = true) :
    ∃ p ∈ optionNames, findDumpOption arg = some p ∧ isArgString arg p.1 = true ∧
      (p.2 = o.2 ∨ isArgString p.1 o.1 = true ∧ o.1.length < p.1.length) := by
  obtain ⟨p, hp⟩ : ∃ p, findDumpOption arg = some p := Option.ne_none_iff_exists'.1 fun h =>
    (List.find?_eq_none.1 h o ho) hm
  obtain ⟨hpm, as, bs, hsplit, has⟩ := List.find?_eq_some.1 hp
  refine ⟨p, List.mem_of_find?_eq_some hp, hp, hpm, ?_⟩
  rw [hsplit, List.mem_append, List.mem_cons] at ho
  rcases ho with ho | rfl | ho
  · exact absurd hm (by simpa using has o ho)
  · exact .inl rfl
  · have hpair : isArgString o.1 p.1 = true → p.2 = o.2 := by
      have h := optionNames_prefix_flags
      rw [hsplit, List.pairwise_append, List.pairwise_cons] at h
      exact h.2.1.1 o ho
    unfold isArgString at hm hpm hpair ⊢
    rw [List.isPrefixOf_iff_prefix] at hm hpm hpair ⊢
    rcases List.prefix_or_prefix_of_prefix hpm hm with h | h
    · exact .inl (hpair h)
    · rcases Nat.lt_or_eq_of_le h.length_le with hlt | heq
      · exact .inr ⟨h, by simpa [length_map_toLower] using hlt⟩
      · exact .inl (hpair (h.eq_of_length heq ▸ List.prefix_refl _))

/-- **An argument gets the flags of the longest name it starts with.**  For every
argument and every option name that starts it (in any case), the argument selects the
first entry of `option_names` that starts it, and that entry has the named option's flags
unless the named option's name is strictly shorter: no name is shadowed by a shorter
name with other flags listed before it. -/
theorem findDumpOption_longest (arg : String) (o : String × BitVec 32) (ho : o ∈ optionNames)
    (hm : isArgString arg o.1 = true) :
    ∃ p, findDumpOption arg = some p ∧ isArgString arg p.1 = true ∧
      (p.2 = o.2 ∨ o.1.length < p.1.length) := by
  obtain ⟨p, -, hp, hpm, h⟩ := findDumpOption_of_match ho hm
  exact ⟨p, hp, hpm, h.imp_right And.right⟩

theorem findDumpOption_longest_bioAck :
    (isArgString "BioAckQ" ("bio", flag skipDefault ||| flag showBioQueue).1 = true) ∧
    ∃ p, findDumpOption "BioAckQ" = some p ∧ isArgString "BioAckQ" p.1 = true ∧
      (p.2 = (flag skipDefault ||| flag showBioQueue) ∨
        ("bio", flag skipDefault ||| flag showBioQueue).1.length < p.1.length) :=
  ⟨by decide, findDumpOption_longest "BioAckQ" ("bio", flag skipDefault ||| flag showBioQueue)
    (by decide) (by decide)⟩

/-- An argument that starts with `all`, in any case, selects every flag. -/
theorem findDumpOption_all {arg : String} (h : isArgString arg "all" = true) :
    ∃ p, findDumpOption arg = some p ∧ p.2 = ~~~0#32 := by
  obtain ⟨p, hpmem, hp, -, h' | ⟨h', -⟩⟩ :=
    @findDumpOption_of_match arg ("all", ~~~0#32) (by decide) h
  · exact ⟨p, hp, h'⟩
  · exact ⟨p, hp, optionNames_all p hpmem h'⟩

/-- **`all` is `vdo_dump_all`.**  A dump message whose arguments all name options, one of
them `all` in any case, logs no unknown name and dumps exactly what `vdo_dump_all`
dumps. -/
theorem vdoDump_all (useBioAckQueue : Bool) (argv : List String) (why : String)
    (hknown : ∀ a ∈ argv.tail, (findDumpOption a).isSome = true)
    (hall : ∃ a ∈ argv.tail, isArgString a "all" = true) :
    vdoDump useBioAckQueue argv why = ([], .ok (vdoDumpAll useBioAckQueue why)) := by
  obtain ⟨hunknown, hres⟩ := parseDumpOptions_spec argv
  obtain ⟨a, ha, hma⟩ := hall
  obtain ⟨p, hp, hp2⟩ := findDumpOption_all hma
  rw [if_pos (List.all_eq_true.2 hknown), if_neg (List.ne_nil_of_mem ha),
    foldl_or_allOnes (List.mem_filterMap.2 ⟨a, ha, by simp [hp, hp2]⟩)] at hres
  have hnone : argv.tail.filter (fun a => (findDumpOption a).isNone) = [] :=
    List.filter_eq_nil_iff.2 fun b hb => by simpa [Option.isNone_iff_eq_none,
      ← Option.isSome_iff_ne_none] using hknown b hb
  simp only [vdoDump, hunknown, hres, hnone, Except.map, vdoDumpAll]

theorem vdoDump_all_bio :
    (∀ a ∈ ["dump", "bio", "ALL"].tail, (findDumpOption a).isSome = true) ∧
    (∃ a ∈ ["dump", "bio", "ALL"].tail, isArgString a "all" = true) ∧
    vdoDump true ["dump", "bio", "ALL"] "sysfs" = ([], .ok (vdoDumpAll true "sysfs")) :=
  ⟨by decide, by decide, vdoDump_all true ["dump", "bio", "ALL"] "sysfs" (by decide) (by decide)⟩

end Kvdo
