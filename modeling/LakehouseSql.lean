import LakehouseSql.Proofs.Identifier.Exact
import LakehouseSql.Proofs.Render.EmptyRow
import LakehouseSql.Proofs.Render.Existence
import LakehouseSql.Proofs.Render.Flag
import LakehouseSql.Proofs.Render.Injection
import LakehouseSql.Proofs.Render.Insertion
import LakehouseSql.Proofs.Render.LoadOption
import LakehouseSql.Proofs.Render.Location
import LakehouseSql.Proofs.Render.Merge
import LakehouseSql.Proofs.Render.Query
import LakehouseSql.Proofs.Render.Renderability
import LakehouseSql.Proofs.Render.RowLimit
import LakehouseSql.Proofs.Render.Screening
import LakehouseSql.Proofs.Render.Separation
import LakehouseSql.Proofs.Render.SourceTable
import LakehouseSql.Proofs.Render.StatisticsName
import LakehouseSql.Proofs.Render.Uncommented
import LakehouseSql.Proofs.Settings.Defaults
import LakehouseSql.Proofs.Settings.Resolution
import LakehouseSql.Proofs.Settings.TextSetting
import LakehouseSql.Proofs.Sql.Literal
import LakehouseSql.Proofs.Statement.Having
import LakehouseSql.Proofs.Statement.RoundTrip
import LakehouseSql.Proofs.Statistics.Discovery
import LakehouseSql.Render.Choice
import LakehouseSql.Statistics.Provider
