import Facets.FunctionTable
import Facets.Main
import Facets.Proofs.PageProperties
import Facets.Proofs.QueryRoundtrip
import Facets.Proofs.Segmentation
import Facets.Proofs.SpecificationErrors
import Facets.Proofs.SpecificationLayout
import Facets.Proofs.SpecificationAppend
import Facets.Proofs.LinkAddress
import Facets.Proofs.CatalogOperations
import Facets.Proofs.MarkupEscaping
import Facets.Proofs.TomlStrings
import Facets.Proofs.StoredConfig
import Facets.Proofs.ConfigRuns
import Facets.Proofs.LastElement
import Facets.Proofs.CatalogContents
import Facets.Proofs.ScannerGrammar
import Facets.Proofs.FilterContents
import Facets.Proofs.QueryAlphabet
import Facets.Proofs.FiltersArgument
import Facets.Proofs.InfoArguments
import Facets.Proofs.SpecificationArgument
import Facets.Proofs.BaseUrlSettings
import Facets.Proofs.EditScripts
import Facets.Proofs.Requirements
import Facets.Proofs.Suggestions
import Facets.Proofs.ArgumentTexts
import Facets.Proofs.StoredArguments
import Facets.Proofs.Utf8Order
import Facets.Proofs.RegisteredFunctions
import Facets.Proofs.TableStyles
