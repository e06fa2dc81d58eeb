import CssTrim.Filter
import CssTrim.Media
import CssTrim.Settings
import CssTrim.Usage.Document

/-!
# Trimming a stylesheet

The runs that take a stylesheet as text and give it back as text, with counts of
what they did.

* `purge` drops the rules that no document refers to.
* `combineMedia` merges media blocks with the same query.
* `optimize` purges by the usage of documents and combines what is left.
* `extractCritical` splits a stylesheet into the rules for what is above the
  fold of a page and the rest.

A blank stylesheet has no blocks, and no result but the warnings of the policy.
-/

namespace CssTrim

namespace Stylesheet

/-- What a run counts. -/
structure Stats where
  blocksIn : Nat := 0
  retained : Int := 0
  removed : Nat := 0
  /-- The number of media blocks that went into another one. -/
  merged : Nat := 0
  /-- The alternatives of selectors that were rejected. -/
  rejected : List Text := []
  warnings : List Text := []
  deriving DecidableEq

/-- A stylesheet, and what the run that made it counted. -/
structure Result where
  css : Text := []
  stats : Stats := {}
  deriving DecidableEq

/-- Keeps the blocks of a stylesheet that the usage or the policy keeps. -/
def purge (s : CheckedSettings) (u : Usage) (css : Text) : Result :=
  if Text.isBlankText css then { stats := { warnings := s.policy.warnings } }
  else
    let blocks := s.blocksOf css
    let filtered := Judge.filter { usage := u, policy := s.policy } blocks
    { css := Block.serialize filtered.retained
      stats := {
        blocksIn := blocks.length
        retained := filtered.retained.length
        removed := filtered.removed.length
        rejected := filtered.rejected
        warnings := s.policy.warnings } }

/-- Merges the media blocks of a stylesheet that have the same query. -/
def combineMedia (s : Settings) (css : Text) : Result :=
  if Text.isBlankText css then {}
  else
    let blocks := s.blocksOf css
    let combined := Media.combine blocks
    { css := Block.serialize combined
      stats := {
        blocksIn := blocks.length
        retained := combined.length
        merged := Media.saved blocks } }

/-- Purges a stylesheet by the usage of documents and combines what is left. -/
def optimize (s : CheckedSettings) (documents : List Document) (css : Text) : Result :=
  let purged := purge s (.ofDocuments documents) css
  if purged.css.isEmpty then purged
  else
    let combined := combineMedia s.toSettings purged.css
    { css := combined.css
      stats := { purged.stats with
        retained := purged.stats.retained - combined.stats.merged
        merged := combined.stats.merged } }

/-- A stylesheet split by what is above the fold of a page. -/
structure Split where
  critical : Text := []
  remaining : Text := []
  /-- The critical selectors, in the order of their texts. -/
  selectors : List Text := []
  /-- Critical blocks count as retained and the others as removed. -/
  stats : Stats := {}
  deriving DecidableEq

/-- Splits a stylesheet by a usage that lists the critical selectors.  Passthrough blocks are never
critical. -/
def split (s : CheckedSettings) (listed : Usage) (css : Text) : Split :=
  let policy := s.policy.forCritical
  if Text.isBlankText css then
    { selectors := listed.raw.toList, stats := { warnings := policy.warnings } }
  else
    let blocks := s.blocksOf css
    let filtered := Judge.filter { usage := listed, policy := policy, critical := true } blocks
    let critical := filtered.retained.filter (!·.passthrough)
    let remaining :=
      (filtered.decisions.filter fun (b, c) => !c.keep || b.passthrough).map (·.1)
    { critical := Block.serialize critical
      remaining := Block.serialize remaining
      selectors := listed.raw.toList
      stats := {
        blocksIn := blocks.length
        retained := critical.length
        removed := remaining.length
        rejected := filtered.rejected
        warnings := policy.warnings } }

/-- Splits a stylesheet by what is above the fold of a page. -/
def extractCritical (read : Markup.PageReader) (s : CheckedSettings) (page css : Text) :
    Except Markup.Rejection Split :=
  (Critical.scan read s.criticalWindow page).map fun elements =>
    split s (Critical.usage elements s.criticalSeed s.criticalLimit) css

end Stylesheet

end CssTrim
