import JapaneseInflection.CommandLine.Arguments
import JapaneseInflection.CommandLine.Run
import JapaneseInflection.Error
import JapaneseInflection.Fragments
import JapaneseInflection.Fragments.Lemmas
import JapaneseInflection.Fragments.Operation
import JapaneseInflection.Inflection.Conjugator
import JapaneseInflection.Inflection.Exponent
import JapaneseInflection.Inflection.Form
import JapaneseInflection.Inflection.Paradigm
import JapaneseInflection.Lexicon.Adjective
import JapaneseInflection.Lexicon.GodanEnding
import JapaneseInflection.Lexicon.Particle
import JapaneseInflection.Lexicon.Stem
import JapaneseInflection.Lexicon.Verb
import JapaneseInflection.Lexicon.Word
import JapaneseInflection.Lexicon.WordClass
import JapaneseInflection.Log
import JapaneseInflection.Main
import JapaneseInflection.Phrase.Basic
import JapaneseInflection.Phrase.Template
import JapaneseInflection.Proofs.CommandLine.AllOrNothing
import JapaneseInflection.Proofs.CommandLine.FirstFailure
import JapaneseInflection.Proofs.CommandLine.Influence
import JapaneseInflection.Proofs.CommandLine.Lines
import JapaneseInflection.Proofs.CommandLine.Requirement
import JapaneseInflection.Proofs.Fragments.Equality
import JapaneseInflection.Proofs.Fragments.History
import JapaneseInflection.Proofs.Inflection.CausativeChoice
import JapaneseInflection.Proofs.Inflection.Collision
import JapaneseInflection.Proofs.Inflection.Compound
import JapaneseInflection.Proofs.Inflection.Derivation
import JapaneseInflection.Proofs.Inflection.Graph
import JapaneseInflection.Proofs.Inflection.Homograph
import JapaneseInflection.Proofs.Inflection.Keyword
import JapaneseInflection.Proofs.Inflection.Paradigm
import JapaneseInflection.Proofs.Inflection.Print
import JapaneseInflection.Proofs.Inflection.Resolution
import JapaneseInflection.Proofs.Inflection.Spelling
import JapaneseInflection.Proofs.Inflection.Syncretism
import JapaneseInflection.Proofs.Inflection.Texts
import JapaneseInflection.Proofs.Inflection.Totality
import JapaneseInflection.Proofs.Lexicon.Blame
import JapaneseInflection.Proofs.Lexicon.Compound
import JapaneseInflection.Proofs.Lexicon.Grammar
import JapaneseInflection.Proofs.Lexicon.Parts
import JapaneseInflection.Proofs.Lexicon.RoundTrip
import JapaneseInflection.Proofs.Lexicon.TwoSpellings
import JapaneseInflection.Proofs.Log.Completeness
import JapaneseInflection.Proofs.Phrase.Congruence
import JapaneseInflection.Proofs.Phrase.Layout
import JapaneseInflection.Proofs.Phrase.TemplateLaws
import JapaneseInflection.Proofs.Settings.Override
import JapaneseInflection.Proofs.Toml.DistinctKeys
import JapaneseInflection.Settings.Basic
import JapaneseInflection.Settings.Datum
import JapaneseInflection.Settings.Decode
import JapaneseInflection.Settings.Read
import JapaneseInflection.Text.CodeRanges
import JapaneseInflection.Text.Combining
import JapaneseInflection.Text.Field
import JapaneseInflection.Text.Quoted
import JapaneseInflection.Text.Unprintable
import JapaneseInflection.Toml.Document
import JapaneseInflection.Toml.Moment
import JapaneseInflection.Toml.Number
import JapaneseInflection.Toml.Reader
import JapaneseInflection.Toml.Spacing
import JapaneseInflection.Toml.Strings
import JapaneseInflection.Toml.Table
import JapaneseInflection.Toml.Value
