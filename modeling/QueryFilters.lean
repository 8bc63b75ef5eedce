import QueryFilters.FilterSet
import QueryFilters.FilterSet.Session
import QueryFilters.Fragment.Json
import QueryFilters.Json.Reader
import QueryFilters.Lookup.Json
import QueryFilters.Proofs.Calendar.Reading
import QueryFilters.Proofs.Calendar.Succession
import QueryFilters.Proofs.Codec.Compound
import QueryFilters.Proofs.Codec.Integer
import QueryFilters.Proofs.Compilation
import QueryFilters.Proofs.Evaluation.Caseless
import QueryFilters.Proofs.Evaluation.Conjunction
import QueryFilters.Proofs.Evaluation.Meaning
import QueryFilters.Proofs.Filter.Absence
import QueryFilters.Proofs.Filter.Choices
import QueryFilters.Proofs.Filter.Day
import QueryFilters.Proofs.Filter.Decoding
import QueryFilters.Proofs.Filter.Intersection
import QueryFilters.Proofs.Filter.Millisecond
import QueryFilters.Proofs.Filter.Range
import QueryFilters.Proofs.Filter.Typing
import QueryFilters.Proofs.FilterSet.Independence
import QueryFilters.Proofs.FilterSet.Run
import QueryFilters.Proofs.FilterSet.Typing
import QueryFilters.Proofs.Fragment.Reordering
import QueryFilters.Proofs.Fragment.Serialization
import QueryFilters.Proofs.Fragment.Typing
import QueryFilters.Proofs.Identifier.Reading
import QueryFilters.Proofs.Json.Numbers
import QueryFilters.Proofs.Json.Reading
import QueryFilters.Proofs.Json.Strings
import QueryFilters.Proofs.Key.Reading
import QueryFilters.Proofs.Number.Rounding
import QueryFilters.Proofs.Proximity.Demands
import QueryFilters.Proofs.Proximity.Distance
import QueryFilters.Proofs.Proximity.Table
import QueryFilters.Proofs.Query.Flattening
import QueryFilters.Proofs.Query.Tables
import QueryFilters.Proofs.Queryset.Emptiness
import QueryFilters.Proofs.Queryset.Narrowing
import QueryFilters.Proofs.Queryset.Ordering
import QueryFilters.Proofs.Queryset.Reordering
import QueryFilters.Proofs.Registry.Declaration
import QueryFilters.Proofs.Registry.Inheritance
import QueryFilters.Proofs.Schema.Elements
import QueryFilters.Proofs.Schema.Introspection
import QueryFilters.Proofs.Value.Comparison
import QueryFilters.Proofs.Value.Equality
import QueryFilters.Proofs.Value.Lexicographic
import QueryFilters.Proofs.Value.Order
import QueryFilters.Schema.Introspection
import QueryFilters.Schema.Json
