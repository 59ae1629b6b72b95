import DoxGovernance.Lib.Paging
import DoxGovernance.Query.Service

/-!
# Listing all events

A client that wants every event of a filter asks for the count and then for the pages at
the multiples of the limit below it. The pages are sorted by timestamp alone, which a whole
batch can share, so the events at a page border may be repeated and others left out.
-/

set_option autoImplicit false

namespace Dox
namespace EventQueryService
open Paging

/-- The pages at the offsets `0`, `limit`, `2 * limit`, … below the count, end to end. -/
def readAll (scans : Nat → Scan EventRecord) (filters : EventFilter) :
    Service (List EventRecord) := do
  let total ← countEvents filters
  let pages ← Effect.mapEach
    (fun k => listEvents (scans k) {filters with offset := k * filters.limit})
    (List.range (pageCount filters.limit total))
  return pages.flatten

def matching (filters : EventFilter) (w : World) : List EventRecord :=
  w.events.rows.filter filters.keeps

theorem nodup_matching (filters : EventFilter) (w : World) : (matching filters w).Nodup :=
  (List.Nodup.of_map _ w.events.unique).filter _

theorem countEvents_run (filters : EventFilter) (w : World) :
    countEvents filters w = (.ok (matching filters w).length, w) := by
  rw [countEvents, Effect.gets_run, List.countP_eq_length_filter]
  rfl

theorem readAll_run (scans : Nat → Scan EventRecord) (filters : EventFilter) (w : World) :
    readAll scans filters w =
      (.ok (crawl (·.timestamp) filters.limit scans (matching filters w)), w) := by
  have hpages : Effect.mapEach
      (fun k => listEvents (scans k) {filters with offset := k * filters.limit})
      (List.range (pageCount filters.limit (matching filters w).length)) w =
        (.ok ((List.range (pageCount filters.limit (matching filters w).length)).map fun k =>
          page (k * filters.limit) filters.limit
            (orderByDesc (·.timestamp) ((scans k).order (matching filters w)))), w) :=
    Effect.mapEach_gets (fun k w => page (k * filters.limit) filters.limit
      (orderByDesc EventRecord.timestamp ((scans k).order (matching filters w)))) _ w
  rw [readAll, Effect.bind_ok (countEvents_run filters w), Effect.bind_ok hpages, Effect.pure_run,
    ← List.flatMap_def]
  rfl

/-- Every matching event is listed exactly once, however each query orders events of one
timestamp, and the count is that of the matching events. -/
def ListsAll (filters : EventFilter) (w : World) : Prop :=
  countEvents filters w = (.ok (matching filters w).length, w) ∧
    ∀ scans, ∃ listed, readAll scans filters w = (.ok listed, w) ∧
      listed.Perm (matching filters w)

/-- The pages are complete exactly when the matching events of no timestamp have a page border
among them. -/
theorem listsAll_iff (filters : EventFilter) (w : World) :
    ListsAll filters w ↔ BlocksWhole (·.timestamp) filters.limit (matching filters w) := by
  rw [← crawl_perm_iff filters.limitBounds.1 (nodup_matching filters w), ListsAll,
    and_iff_right (countEvents_run filters w)]
  refine forall_congr' fun scans => ?_
  rw [readAll_run]
  constructor
  · rintro ⟨listed, hrun, hperm⟩
    cases hrun
    exact hperm
  · exact fun hperm => ⟨_, rfl, hperm⟩

/-- Two events of one batch, with one timestamp. -/
def twoAtOnce : World where
  clock := sampleNoon
  events := ⟨[sampleRecord .modelCalled 1, sampleRecord .modelCalled 2], by decide⟩

/-- With pages of one event, the second query may read the two in the other order: the first event
is listed twice and the second never. -/
theorem listed_twice :
    readAll (fun k => if k = 0 then .stored else .newest) {tenantId := "acme", limit := 1}
        twoAtOnce =
      (.ok [sampleRecord .modelCalled 1, sampleRecord .modelCalled 1], twoAtOnce) ∧
    ¬ListsAll {tenantId := "acme", limit := 1} twoAtOnce := by
  have hrun : readAll (fun k => if k = 0 then .stored else .newest)
      {tenantId := "acme", limit := 1} twoAtOnce =
        (.ok [sampleRecord .modelCalled 1, sampleRecord .modelCalled 1], twoAtOnce) := rfl
  refine ⟨hrun, fun hlists => ?_⟩
  obtain ⟨listed, hlisted, hperm⟩ := hlists.2 fun k => if k = 0 then .stored else .newest
  rw [hrun] at hlisted
  cases hlisted
  have hids := hperm.map EventRecord.eventId
  exact absurd hids (by decide)

end EventQueryService
end Dox
