import KernelStats.Chain

/-!
# A sample chain

Four kstats such as a small machine would show: counters of a processor, facts about the system, one
kstat that is not named, and the counters of a network link.
-/

namespace KernelStats

namespace Chain

private def including (moduleName name className : String) (type : KStatType)
    (records : List Record) (c : Chain) : Chain :=
  c.add
    { moduleName := utf8 moduleName, name := utf8 name, className := utf8 className, type }
    records {}

/-- A processor, the system, a raw kstat and a network link. -/
def sample : Chain :=
  let empty : Chain := {}
  empty
    |> including "cpu" "sys" "misc" .named
      [.uint64 (utf8 "cpu_nsec_idle") 123456789, .uint64 (utf8 "idle") 4242,
        .int32 (utf8 "cpu_load") (-3), .char (utf8 "brand") (utf8 "i86pc")]
    |> including "unix" "system_misc" "misc" .named
      [.uint32 (utf8 "ncpus") 8, .int64 (utf8 "boot_time") 1700000000]
    |> including "cpu_stat" "cpu_stat0" "misc" ⟨0⟩ []
    |> including "link" "net0" "net" .named
      [.uint64 (utf8 "rbytes64") 1099511627776, .uint64 (utf8 "obytes64") 99]

end Chain

end KernelStats
