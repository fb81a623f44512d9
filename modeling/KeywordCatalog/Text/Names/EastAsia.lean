import KeywordCatalog.Text.Packed

/-!
# Names of East Asian signs

Signs of East Asia and forms for presentation: code points from 3000 to FFFF.
-/

namespace KeywordCatalog.Text

/-- The names of these characters, in the packed form that `Text.codeNamed?` reads. -/
def eastAsia : Packed where
  steps := 9477
  digits := "
W]>H!*w_M82vK)-ST8/=ytYvk(0:GZoz1EyjU84o`?=(,d@_c,TN*E4QXyt2<6ZwZ?0+3V8a'#=h!UTEQ;26,CcyZ]<SJ=0*)TeC
],%v/Y6+6<dEzQ#W%aO]w^@B=,85'.!nxVpS4zr/5uoiKrzb!'Sii]#t=8Ier/paFdYAXQ6h:Vrm?QmmA@9c`8C!e,r6O!ZZ3>Oh
t*<j-N9pkt6A:sTtQ&g7C&2K7j&l/*U5;[]s@xOjB;fPCJ@9O<pwJF@Mu!;:=;1%v%`z,/l2jMR0;dt5?GaeQP2Ve#SOqZ3Ij6-_
wf3[,E'UVOX30T+`BKfNDSt2a+vHhr!aK21hF^C4FfB3H%7eF&zsi,P8tx(#Hy4<d@VqeKcyaqXzpG76!t*k(M[EwX0TmfyI(E8R
uYaVJ7<PK!RF[X_l&./A&Lcf0YBfG+.hJwe_RMoeeYA3_G;Pzg.&d/jB^X>^x>?5w:q#dH#>`[kPWB#d'G0tyR)W?w%WW]ohtD]F
JA'&E82*alyo4c!C`<#*fE=imaoiGHEf4Wh26&n8zQ5RCvT!y0[jW>!XdVlM.RX+reI=FOM1&s-h;^<Y7#5jsT_)[BC@dwyn>FCu
<z=zQ%xTZI+A6K?c1WHEU&')_Q3l*E;_I9,R?Ah1[#V+7v;T6O[0GZ2M<NqpkH=64GQ8+TpOr<'!hvP!<a0Zlm'f,6WVGaw(@8`'
H]<;V&W;]Ru=rZVL<$7APO%#t69&J0QWuQ)/G>JfIF$o=1lVnmfW2wUVieK!GU^t`?S^`:OykRxE5,F?I^D-.=n@mG&:<Bmkc9g
f@nBhC1f*?y;6y]l^[Qh0m?hohqs)Q.yw^FQ4L`S2lqJ4UaqWeKpq^RAp#r[LkZ'&vsuwa'=I:'vx=S7).6udULalw+Rg^V?;fr0
<13=K@Ju<hqL_&BQlArAF8C'K,TMp&o@N-LDv_qc9b@<(:M'9HIfoZv)Y,'wE%h&.=FN=nGNSo8#MJ2&sS?asBV+<aWffRGu,S+U
$.qO'@KL11dBaT(sn<XRMmtXa0XKLhpa.WtvYeFcffvn&!Rb$82ABc>b/-GPxvY.$d(h;oi+r[NsR4th)X?HrV75fujV,nNIC)BJ
DxN;E/fLZvF,8+RTXhnidXS^tRK'9/dBbuxp.(vn)=9>FA'lJK$lqi.g=I+96raHaGMyT2su1GzM2V2a.(>?,`3((sl/=V*pZpS&
aZuXEh8<tBxZ_xXoNt_i+r8_kPH;Av(k@Xrnt5%c71vT:ahkqAlj$UwneV?b?krha^]wXm8qrG<OIO$<2yrWDNL^79m^8OL*<E?M
UtV'/R$;tX.(jOk&'BYxf3tlcJ8i5lxl[?V(f%=/-NFDQF$R#297=g#4)p=</yGl`noH!!F#,Y;YQjRTLDeNNf']9H[[Ki1%7yai
2RRIU+815)ksI,V%8FweI=,zO]gVOsvc_%!Ao'Axo[$Cuw-4cf/g;9+*3J+!111-.A8CHhh8Q_p+'gV)@q=]/p=#)q]aO&S^g!j[
O?eEuZDYNYvN9$pzb#`+TPgm2$_n.zl=]`M6^scsByo<J]6R0+M<xtg_!bWUor/]%MGIR1xhv#Ch%YSz?RB!nGi9NkioIm_/=:Bb
p0raT];^0)2;R1'K<Ga$rUK;FIuL`sWjIne<+&[#(3@3>I#MvQhn*;.bk$8se4$j=^R=bFohK/M^66sh8AIvK;7q_g+Vnfr^c>sj
F0ER0>@nNgxIKg-Rxcfow-Ax]l483;)Rqo+nU'ds%4_OxGB,h%HKh:okc]36LZiw&2ErHvM>Id6H4#2'-'ZVeT/nGEEhVe/(>8jn
4JsqmHdgK0WF+<3qt,[/0S,oh][lL.U&4icH1.p.<J+K<$/c8m!&tIgF7d0o$_C=^ityV2jc%RP_/<'Uk#L$wG(wI[?C,J8H3D9
[/PG$-bKcvh.tzSM(9vqN*n4Midy7y9D`Hi@#+=EH:?I'>L#an5/wC3_f6K.#8$[jWzSF&&%;k-WR+[?vJ7h@+@c'CI]Wm$*D2_r
iYm9WYWLvIc7q0BPCAW!Gd4)gLgVW#y)$^TF(*#TbPZ^qR)*qGOkEr0^hUI5J`![Acsoi9sk.b23$E-[$^r:.c/b&YK[m3Z<`,q)
*(tjB72Y>9,74]4F$]r>vHXm]R9Mqa+Qn@o(<gZag+FJmBJ.DPhmiFb6b2q,B>!6Tx('pJLbRv*=B#x/IBmfT*x+3.#hGh0i0Cq+
CTindfK7B`FG+'vG3flRi8]4(/DY<wJ0Qp&;T!yPM_#Ww]ef_<e.UFk(q`s/i]08-@UyJLySsVqJyII33O3AAjFP&NqOlVZ6.^sd
gyY?>/3[z%RR_[-A+@m!?XM9F&e$g(F>^MWkhlgh(M3v8:IMPYWDoFU5e2cK_mG.o0%qDv#95B*9$<@6%$b)jQA=A`3nu%Iq;ZN0
o/lo^i-BvC0d#w=-bwjj4U_kQDAqH9[1[5SZ,,h2%d2Tj;_sc0SI*r1ie3^>sxSJ_uE7-gk^w#4.E5,*a<fo-9@hHVj=meyJc,+h
*ZaRL>pE11z7gM!bS`.Eo(SW7%:pb+ZWQqRz68#,*@kIM?<5:KAz%^.=_7`Z!aza8oh7lRHC<ri_Wz+1WXfmqw_>EA;gAeOM7T#c
,Be7TOw$d0-EWhW&KYhhWq2w1/T`Ui'^TjKyDwrU?LrfhPjgpJ[TdI>(!A2YQLqou2z]Z*%Yc10C4cW8qXex[t@D>b,SgFhB3Y])
S@?!WV_j<[6PEKKia!eZU=lP@_Ef.j'&sk_(q;p7Ew0SBXENl9YWfii8#,Hqe!tgv$B`!.5M<$'7+*Oz3+<?$91QeU6;9EnT97'C
tYlIF:SrI:2nDL5+ZO>[I^,D,EqF&=r3[;$.Je_#/YwHrv9.x)mwFh.[-(Pxp&7:8Z;p*%;[2N*()ee%$,WfEW8>;/#8+6#v3GY3
DI5*[mLFG&38NETh-lV]i./>]apq[`Ak&t_Nl^uAIJ[+c,4rUIo(-I_#'R@]+dk87eTT^WY'q+fbNXiPHHFM5I3ZnCX1^)vvtd6h
p_x]b%$3b)v<x+r*V#xZVLlI*uVCZjE0]0p?8YFd?8!9`6`$?97dK)Xta#H+gArcw/L2VDbcmXPl*8/kg1bjR;9uhJ[4B-lgP-Fh
yOI2?kUp;Vo$q3fV]&3Kpo8pr.at4cU3bJ(vG=6t>F=&FB-@E%AcaO_QD[aQ^;IT?1VSGpW62VF^`Z/?HRuy!#sUFO:59+._HVEU
nXTe4h_*Y5LY4E#<^TeI3#:9]ArGi<fGP@&CyxufLue>[`sE<o6pn#j`R1k=ZmOrYnuK%i?)bE$iMMQ^`lx01wfGN_`p])FUR%4d
wA?)se5FW9TW^(Lcmr_w=03lD<n5ZB8-'a83EMgWv56QCEFH!rP7*=)YC9M@myz_5KiGBhWz!cuBlTTSKIe!S_-hdfUTB7bGmeD&
w+j2(m(U%E&5Z7_l]jNC0#;u172).[kqR`0xIj)VT$428*[g3_Z`s@yC1RZ]T^Q6/$+#;&xQbndyl($$Y-6wDi?z#D(G*?mOyb@B
uzz,`e6i0+N:thal'xu2?d6FfriAvtdCD^l?7]R/7npm0HQLkQpTgI9Dc-9Hy-;hwCXJcj!<I9PATvvt;_!x$HRe(%x4#N=4Wvyx
7p2Eua;U=EFkAo]9e0.YA%g!6wQJ/^trG:HSa7seJKSM=BF%4F>]`76W8C)v+1Z[aP`3x5c8t-:Ih2mByaix^&0c2<e%F-JK3D(p
M$l#i(nIvUIH:m4D_#Oz6WG&kMeW'9Y^kNDtnVTr/DDG0jHiakQ3oBf*J-&&XV;T&l:OsGE=p$!`Pfjgq:2sczk]vzaj:3XeK`6w
l0v#ic!1,i<^9+`DD&7atV$t.0uGY7%Zbr:=1&qV[A2P#7Wd;7C/o^,0?B$f5LrIJ$Basi6H1ggN;NS7^,o3Tw_(ijQi:A9:Gf1K
w-[=mQR;xSD0hQhM,)%^&yn@86&%E@F%ia$,XmG5Bj1liOM_v:H[&MR-;GNHZM:yzb_lLJ]^TGpEiCRj),/%&tRo$.$%@5Hq<^VC
AFLjcz$POPU/t;C]DRD(@._d$)5i<WK6G,DA:L,^&t3OI19O%lw/afP-I_WTe>KZT<eO^EY#-4b+m5tPS/Pg?<P_yi%dOopBu*G
z@jaCoMnRfT$T(=]./]*a+8MLS]<]f7QOw?Z!7suELs:'q$cDw'AN#5W>c4wHN/j,BA>V3nG;8N!J9MWwF?IA74:8!CvKOwi?)QO
Wh3XsDbzl3:D!tKW^Csu1c/[dp[xL(rJCA7_)@_l4.]Dgz`]wRjH!werD>#7SYPmDNr(pJNTx(6<%S0Z!ta:ePm`Hq5Cvb<'+3J5
^T'rC1$$1hQ>X2'GK1cQLSNs_pMqjNso_F:qBE5V@?Ivh;h@*^[FL0I.$;vdfUGDitCEaH8uAv/&&dsBZ((NTMdy(fy+3ppxbfD8
`r>(maSNqQ-f<s^;aE0W%2pfUyo3X(_pk1Q=E>3K)=`mTf/tV/igUdlV*nTjJ@Gk[B`weVHNgRes]6y-mgWrb()ZdrVV@VLqP<Wi
%Y_N7pNBye&]XRH6o2-n[YF]]eX_lN;T.D<v(c65&u69l?)W:Cdlw9lfnUDev8-td:5r[/mR*J9Sz5bT1&Fm[7eF@X]:l_[W^SLK
R+QE3pM:gn.ZR2M=!mBo&B[9.[H1`6.E7[K$T$O.m9oP&]6PHikd5vyB%xN;HT<K$+`F$6_GRbLx+w!haiAZ,gg[Jm8M4Xtms3)Z
fGrx+^zH(xeKzn5sqHm6i.9q;RBDe0x[fA82XBcwS:K+IHY2?z+q.2G.@tn>ly=Knc`yN=DT1l@Qhz`TXy^DApH5_SzN!126fxsR
<2J=@xcY?[;%[x3JOwtw$skb`/qIqw78yqyTB$h0F^>)j09cT=],aGgYk.itoLi*?dcn`3YFW>Yz<`BVNK0<cD,V.zFm6.=[ec]1
g7y@fj*odv_;3tvR]#0v6`skCK_4N&/nU7oJ`x2R-pk,Qhen=z!DGlp_aVjD*=F&W`v6Vm2^F(^`q4h#T^;]$0?H.w+l%F%,Fyz
n@WVjProOsA)EHw3=RYo]Q-+rAT:M?ED`VlI>%]uBY^ponVI>Jb]wmZ9pUIQn#'ZPGvroLXj#0MZ0B-5+'2)win?B7e0T?P1%@k4
*QentCIY$jpg]+=Xw2%$2C6-4,v`jb4.yz'2=6>G>?UF[;W*C!DjUy!?($nCRbvh*g/HjeDiIT#W7lUo<oM7GCe%+8q2`[ScX/:.
`bJ!EQ[WA12wmJ;R@+@Vq^yukmN4,DF_m?j(),vW$p&1:zUCT#3[mNW^V7c2Y,qQ>lYnMWqmMsPOR4x&l06zqX00KR'fZiwpUZW.
I0138;?PLG-SCqpgYHU%_i,:Uc52w<u]N]pG?ZTbqu%it&0th_,4ukj9@<;&9rYyrsWTsF9,VB@i)&m2+ynKE15'g(o.$>Ko^j1s
Q`J@tcWp9nrST,X9M?rIt]Pq8z.8bTNjuO>Sz]K+]:ga?`nG:*[xkN4YhB6v'Ct%?ZiS%worrEhj.FnmsZ8R$[<>+,sX?/OUZ'5;
d2d-p&Sq71#00#+RHEmGnJ$-3uXX>B-oCO[3^Xt8=]Dzt5'.,lLwu,o'9h&5<O#_G4zsdW9t>;>!gNo/McEq::m4GU;1v9Sqgl3l
CJH?,zsLv9v9;=da3;g/-OZ`Qq7l,z6/Oiv&rM)tY1*^r2&'NWe(R;7rzX_SP-`w^)x#9TE/2pWTEJHwvzO?1tAV`47>q0./#x6j
YBWZo^tsjzJVmP)@^ae6I4wsyXo+AT@v=?H2>-EF'b#N<FUVQ0+w8&ptJf&5fqDj9V$=BBzTYb=&3gwTukhx5`?pJPly;:wxUs1G
%rOwP<2+A9kDaxS%82'2*GSU9xh>``u(ya5k,o1fct+DiTKUqXG;<@k6^t?o<isnzy`S@&U1m)IE9yw%J*!x<X4_DXlj'deUZzw@
g`z.P+Clr`vl85-DHm/9`t7YsbJ0lsIONRh]z(Fl]WZ:YhzE@g*Sl>ypp&&dP+PjbGobG=xKm?PY=yxAsFYm6OD=:#S#egO6*WD
R@50mN5MfuCm:Av9cMR)?,RQ/bGFkqiYJtT=qMICMi6V8(:zC+`!8a8uy,5XFZhp1Fk<$>;KEEVKm><iR2%I5Y^ASq^oszef1!s@
XUHd7.sY_E$MZK;/#k&#KtR>dhALw<Mb923ARlQX^$C,ic'Xt>_:r=7&0f(nOt@/8Fj>npMF*zgf@UIT`<A@oWHKnj&/+?7DCrP7
zo%sHO`G&kq/*0:Rkk:jG*IiXCMmYb:'i8aM%JyU9eD'$y:Ha*U)vA>YXhogg#YV?dx#?p*9NLIFMgP-?FqlYgS<,noOER'h4<wY
l)[)ZW*N*ZK!g#^/*&#t>5>Z+e^gSG-YvI;$5?gP)6tU?0Kon@^zd=-p9z&=FGy<#XvrqGB;qJi$4VB`oiqj;`db&j8G5;Rv8*e#
xj.o^0%pwI`r,9kh6#H/U786b5%TJsxe?uuV&?Ok#5$25R!UbbN.i.6n97`CcgQAKiDH1nv*Bn@r!@WNTQ%sV&HJSrKme)Vc%f&Q
6XPI[R9@`YLa*5XiYp'Vz]23-Td/*kQ4z<:;;blXWYS?/Z%<;VPSG&+onf.8+_%Op(3YLeT;c@F4CVh@Te0>PnkV.7)wD,$B#E1i
9XlnE.?3*NO>IpUt=-SVx.#'m=hwZ>.@[[X>$Xn7R:OujxG3@>Lma=_G9<4w+B#89`8,'<wV-54R;pX?Wm:TH,*ra%K6>]7Q5x1Q
aYl-.GhctF`%kdTz$4y[=Sq')&F`yOkaI&EYb3x$%y1hP;PiEqbSi$]KUPiF]wo,@JY9<9:au?_Yzyc8-)^U.n5s;c+4@`8N441:
h3V^E+K,Y0ILNBD?(fh^0k'wGuf&iJZVQKV$:@1uG)Y53&t#@G)zouMz!jK;._R+@!(qSImR(!7^,v.LOL@)Mb'fT.KvRlZh<T)d
lB'iTOh9T:ct)(@+UL?X$'D_+9ro-wQRWqmj_Rs*ptmtCZS(?)es+BQCo0%OV'7/<f'q-Af^2h8Zjs0+V2@4:oibS>S8qu_e:pmg
4c#)'CKA;U9PmIEeWT<=49qyThN/zV]4UPS]y(S_tPTx*>HFtkvRdspQxHd_XjI@EK2C,T(8nT,Tf(TofCiD;U:Dbz*5n<ol`Vc_
^9-]:Umvg.h$B(tKTdkzX(m3gLk/@O<<Y&%L<oOsc1O@-'HOu$@OupQISX;`^%DZm#DS$>QQf*5$b2DlyJs>zEnSw[Pi-Y8I0q&?
U4w%ey;ikMMR8c9[O^]5LYi9_r=<1^[r`h=mZz!HPiYl2)X;U?*mO/C]!+Y1BG[ry6&xdn/TyqHUuc9z1NW]3JcrJB!b50@cX;8]
GkC:[x7`v6PLl_$YWSQF*kp?lB2UwM]yCuC+Ch@ns/E5Nq>F*csX%<zS+lx)]SMDfy6r$l_5Gw+@Ox4*gHv[-ya'6N,F=bUYUvOF
OReJps#@8dg53vm553Yimt66FQuI&7Ld]==1fr#+>7SnlsG_.@LBdpL>EH`5$CUk`.V#2LuLsum:.>R:o4;JZA1+Y42<%(XF,1@E
R/?XhrGJ:vul1tI'O0t)9VV=MCWdZ`ovkTJs/3R`oQR!]4<mX4uH3I<TEoJ9F1`]!MNoh2F%$^]3eII6>igxHXMG!_L>lKLHH*?l
'hcY4!7?rOr:=GaT#^pPBAf5aBfu`@V=E,yvszf5TqxY-HG*`fF]rdC]u]O!Y2U?6R+PMm[0;9TqK'h6*DFHyN3^Q_SS^@.:DqMu
o0o1kFh%GKZ>]@FHdm6,Ww8qJ-=R4-x8Yd4DcsuwA<REF3yjG,yWv(hW65,&iZz-6ngw-8VCurYlke1`2E'ADjA&ExoUaGjT2]W
(@#UcK-DTOl=X>T?/;_l?zF_losW/e7m;*m:'`TBp+Ji/Pbwq9Rj`XmBOyTXd4'1Z?mx#8`@+w$tzYp$GZ`^,rzJk0a=f+-T-7Ua
uuY8C?b+mn:0S=P'Xj2&rWQ+>.b.T2-CtKUUme:u4[mPrgc6#IV*;0lK(L%#Re(zZyleKKn32b_kyouIcPxD;Se!a_&Y&t3xwub7
_'VJ78437C=a#1,^qh$6h62cGcD)YMMf'u7hyYuI9oCvKI=R-x$sX4]=)1ATbyc.opd`#2S(roP1tU'!u+IVqA$-0$?qb5lewI3x
J*aAB)in+L68:^p:3+kD@dH&3nXyctWexVX4zpR'6Y#$63h-uDDTZD^vNox7O6s7ztp1j_<D`ug5*V^g[>,1V#P6%L&5b%e5<$ZX
?9:OdWFGOb.(=5mRJtBGa153]5gMgSSNI1_p$)2@cQ1_Vxga01eI<-<7?SHzV#oIP10A4aP9F%lU!evYevCK58+xkkq&(kxyg/z6
(MBhHc>AK21*Gh*;1Fzr63,lC.+WWuNE;d.ftG19Y/2v>N:Md]h;FU(/VjWd&9^yenymcW3<VS,(L]:Tf#+Rtg7)WYn.YVnZ4=]d
41)>/A15+4jy]OeUco6'b?5_#VjUpe>zHNAqrwDz(_,8n]2thtR;<Yp1lOqo]N'DiSQHJ'ERSsn?Cf(m7)YAI7'oKC$!h^pj$0LL
+2_cXM#,Czp'f$];6Myuw+li7D[dNs#wM+EPezbc7h.$[yWvY-6n)hz:h?Af9)0_4D!JC'a--FG8RIKi1(bXauI(LI]2EzsP4qsK
Y&,I[Wt$R^pM2$p$(:In)AQD+O2=eelnFN?6o2P9K:G0BQFdi[eO?s2Q#rQNNY/q?+?Z$?=9_bF;u'<AB:'tw_T:b.`bHzr200I3
B2I<>9GqdL*h'f$[vHK.b2c=V-7T;ZEc'l:mjXLO,Qr)'k_4=:@xMLH,>[&j:sm3F1N&qye#pm#i-`Zx*4GNp>245Dlz$YGaa3)
X-eg:H(T!uUHUAwb<k_xH?z)fUXu+@AV,p?]DdgA,ALT-SNw3q0cZzyG>XBkvryhknY'7HB).v-&1P@nh1%xG%1Z6)$H-)v;M:[W
scPt;;-&u/XJtBx7>o/n.Z6_S^GcUx5BUpiNK3XBENiU%en(AoYMtp=#vUyO('b[A_$7.Wm]YDjN-[ijZKmJuZ*>SQ*xxfl238R
=/`t31D3^P`il&6Xf&LA3Oooj<2.i6YoXCknhO]o`brrUA^dv#3XfxQIaaukNigcE5H'C.CQ,HR-4[m7g*f8_=%q<p]mW%:;5.;&
:(3PSzN+,BK4W<pTUUoq3)#[C@K.V,d':/j(rG5!/kfo%Z$Ev[KL]sY!I2*D9BZ`Itf0.5Vt%KO[vkam($@<ojpN`nK6eXP$Dv+J
x9POYjv0[A)OsuVdq=J_-6o6%YW_a#soRMV&jPGe8)'N!yfyx%9QUkU1JM7sVZ<uTWTmGg2'[IUDXTj([r`Z>kpNhi,C9C!,vcfE
f(qai:1-BhYrD8F<@;5HhA&mb`8[;L^!F0C#jC-N&Z'>'d8Nj',Nb@g=^R?^cBOdS?#t&?R=^(8QzbC_:^`gCuz/u6ev#VWO3<Fj
_]z_0Ms>7Jy#pz=%;4nVXpeT&@lKZXLlr6iT6S(C&6B)6Sd<k<461fy$>R*7WX&l&@$oX6-;L>$IsoX!'XF[qmvB^kjqg2#l8aP^
Y=_A+;uhB^Tw4FZ%jT)nlG;-`J]8dpHk>V@#BWs1<m(4:OYM4X/d&(4Hh&GP>8p!WyZNb/!5e&rEF@dc5]p:KaRs1'p&c]iH0d^t
wM,(Zf,87-6O.%H71x)hhCPiItQ09[rsvU[7P_Ba/NMydoI:C&j@w&)5S(n;<6ti9'`?Y9lo]ofE0$XSe[OIZL4QFME!358ndRqw
f8]i7js9]Kz0l`^j5T8nRK@yf5hxr#gUKnOJ0+/nP)+<cXsr^tvjhzwOP__Z*0AX3YDZqEy/Vq:@?8@U[C`L<I@JS%=kPF5>CPmK
$nE,>NSS`0;W+)jugwZ*&Su_`F*-$_aMzSq2FOv;-9yVFi@cwB'0ZpkJ%j1yQVL11bID+]yNCuiw+uRlR6s0<*Vt,YJM(EX(#R'$
E`)/r_4ne-p^f=$DKWVha.bG1t/S>OX,V!Js7@1C3e/7[[LLJ78')[eO(T4/Vs;$YIC+f.#sj.b*lq'm!)kzzomcu9t+!dWbUPZl
m(mG'br+e$Wcr95ur^BI,1%A-zRSuxFz'cOC9T-tXL0tR&5LNIqoy#wxn6y`cPwu7Ts6I'g+h%FMMG:U'C@QxMaDQ:$dy4l'w61z
[xv/vQtgm6:-oR332>9wqwzI_HEIZ95V9Y9zR4v'e.k=h6$IC7g-^(wuqoJ5VZpmOBfHmC8][j/vP_+D9vuf&$GO<;ud=]B:2wU1
11%>:HDJJ@5fgM@hZ8HMP1HiDr0y2nkY7@>mj;p*:u8.HP]r7L@hJ)>hZPjV!4Hn]Q,i:jB4JSxvL6p^sgb1lSUmh.6G]YCD,A7k
0Ypoe_C@noHEN5WWz45[rZYuDbs[8.$bN-i0P9Enf(zr1D&'<uCy.dqcO.ijWmj_W,/6Oc.Xu)d*''7dxPL0_U@Xzs;S&X#r0Wc9
PMAEV8r=eA4kuIJbZrMv-*D:Ewj3(W__(-#Yy48`zw-Rp:+d15/)rL!HP(>/T@E0&0bC<G%hns-ES=SF,D$sJK74N!)/1%C,Aln9
>Htz$eIeQTEos%8/Gq,*xEj%I@v5EXyJ,;k#B>N^0^SJS<vnB$P%_*TIzD/c<krcFWu5NfOx+rNV=rEer%%$[evM.^&hB,Q#lX4A
drG5e+I%4jca``&2DsV]V`xQg3=>yjD==e<18iD(K#5ZXttw[me7]QM2UqY%d`VG8_QYqaCus,>Mx;#RTq7lBj?+'tS;5-S7&l$r
8No9q<=EF6AY/kYE#2b0ZdSQ9iq-Z'7Z23h]B-5Y,OrXn?Q?b_8dhin1^j:q*TV5_h$XD9`Qu]dI8#I811dCCxIg)[/P@[!uJx$f
b6<'qU-Fa(Z[10)k/3uvx/<ZWIZ$@-!npyWm])e;%4p30lKC)]J1s_Mat%&hDP6A>/eYyS<qcTH.x]7=H91Hm%1LqtL=))sT&vt-
A>_1qoz]FIH#'FQbfA%ikUbbGzzA>`:.8[DI2T<GeD!an;)abV(r:K$&V;Z7?$Z!AQ5Ky^R[c?<+f7t6rd-I:jQa;nwSY[MZd8[y
I9XK`suHaS78VSLrhV=F^1)1HO=ywBDi893X2,+[KlX+#:Rd:@P+!KI(P][!OuGil<p;%2/u8XpUZYbr.jxiZKgXng+YpdLy)edt
e70;TPi!lu4ug$_ETS+X#oH%(n;(*R,!L[`YX%Ff3yC#I)F``4r>5Xl#wp<%KPgiB5C=xpxZE[^._1>>S`Hu6X3fM$iV$Xj:>xjs
JLOlM]&!!%@1x/q<^PAwSx/Vo3Ec@;l]aH-VKUwR+e@UxxP-9of$rUJj4G!6#an'R2(][:?nHyjt7B@Q?o>f?W]q^o2R;^I)1zIT
S5]r=0eZ,DK&&+dkqUwv;U,e,fF9)AZGc(PwM*3%pT2qJ8IaRw`(59V/MN(iGV0@W9H+gEctA[J%Exv;$&K#vhC_LWf,778htgt;
nI;[3H)y[WOot2AvB2p`[03P>K.61_XyFf.jT^c[[TOV@e,faLow57z?4$^HXdx3omEid8r2<Ul6;_?TJK+0vND.N(,HNl;f#H]J
13GH-UnYnk4;'cd?7G2xKY+XYk=Hd9@iX/e$WTFG(b4PViLss4/#9qviG-AXhR0$y-^'A.bQ=KLL#g_d8Z,G(kSIL3k7[Yu:x.8.
ZmZD9.++d@Wm8D#'59a.2vJY=l[@$AU3:vk_QNLP86,T'0`C_tl_@l)6l)HWpb;GW]M0*`t_N9zGVzoH`72T?1<7X9nDz`_D8Jbq
3C!e%D.ovSX3MsV^Odv>Tn5pfp/D@@-fY=W1bYK?FKilI_x0rLl;aTHn#F=8U3Ya>kj*#L4LquThZ!lWtp;`7n)]E*TdfZ!Q3B5h
7IBdwpG9#>u*mbz$V)7v$xC:*r-tw[M,!ji*wDRkT']_KCeE1w:*6gu&?%)y@a^,/(/r;Sjk]^=vmC(4dh=-e4`>`$a]b>z@%0ym
olWgT'ba3_$8;];C]H&4wxfF$p['3BUf<[>OO!9+';am07$:#dt>8-.u#I:%''GYE8w716+gQ):q[S9sL*fk^;Rb7BR9jDn*],lh
9FFEi8=Z(E0M_'wgdu@HG/9m7gF9j7]]%3jM#Liks=EjV^SUIw5_lCcMh<9,3O1MPy1,QVFJn*oD+bCy69O7aRlo;.t,P3>,^17b
l.8<Td;KAZu+@*0FDoO]9sj&L?<?S-i*;C]b:;ho?SU`/)jPMEzr[b(fTe`)k#Z^fi_NU+AgjZ-4xDPap?Rb#(G$r,lRU3`1X*gM
24_yL!+aw=J.<ZEHJV0b8ns?<l+rK>JrE1;#ZjC$:j,HiDsBT^2_j!cQ1D,=xy3=O@8OpG)q`5X[BOgXr<-Ocs]uzb::lmuD'JB&
`4u4K_9'?pXygq(4G1#AN%-EdVuL8sxkUcO$V)G?FG<tjK3)05I^`thJ@/H5C;:N1+0>SV_S[(%OWLGO'p(7T$yQ53X94WUY>OHI
]2Sl-;*UFt13*#bjg+JxRywd*a6x[Y*,nCB=+QfI`[S^hBgek-5:0?t/YsKMl$IG;b#RLGl*an^%#44hm)Ifu3DPl,TvTQ6<q_kz
5A_=SA.$M57^5*N53OZb;y.*M1?o4+FoXuY;b=c8/$Ge@lmuDU6mS9DN%N[(LZ+>R;_5D!BjE[c-GvmkE5z0o+mYmern<);3)0Lg
x:<u0x+2A?6Nf.<z]&:1nNCGy'?<oT>f%z`of18XN#@KB5lMof6B6o6*eSTG_dc#2O9=LNi!Wsxj@^r0R>:C&ivcZFf(Y3pd<*c[
j)87@^1P/e+UD0Dx$qoGl#^h=<iYPh<39d^nG#Bfe>)h!S)N_A>vvY7OiWsj+e&(*1yr8y+&vh34t;s-:AB,:3oOxzBUcU>T*sHa
d^62C:C3pF1-si_&?xFnhqb]HuY7@%C)M6wd?<jhGwD'@=)Ac0s60CY;bsyn)^cr5paPJz_--#Cj_X3b:b,#w<jho_]3c6-D9Pc=
w>>n(b$*u`Clg.4yibinLHpcK$_?tezmu-?v.q!8<m8rm9?ShT,A!X4Y03/3.b.W%Xh5O,9d'm!48@X22@JD9u(Xc47q=@k0K<7e
Rsu(!T5Je*1B`-H>?3NAWE42K2@<IpysZ3_DrtdyvfJkfSXJ)K&wHWn[s!/>iWV/9No13m@4ATRnb-#,j_kZKk(oYG!.0eCdbPk@
Y#o:;IlZnt,A8FSM)dpwv$J,I3HjxI1&*-px.)H60oX=nI:.s$4(m%L!CQ'#$b&O/tTk9%0&/t5wa3V[#D=`A_P59>FhMZ8Kpb)1
<s)W:Y1j&JLg@Q45DWa_^iSqna[E)yEdnf[V70jPCUcFm/YhKD*CYG$U3v=`Z^U&pW1FMHG;aHrW%)=:uy!?+,TCu/cgE8Z+[hZy
A;Sy2RWxM[5A>&ZVisd8-nGCw<0FM8)xQE.K))%$GiS#wnI34+rb4E'bHuI/D;Zx2oJ!3S&u(JOU3.!cb-UN@<Gv20zdqRN$yfv.
Ec3ghn!-ONxczjf][A4yog^fa6e1;:^01D$492jPf?m:SR5C#Xk#CZD)z]S2/#QqvCy.c#l:ILfTEF(B$jttY6ZjHKv2VuC8Y7i#
h<okLedPcm4ZSy),8BD9TaM!R$9$1D;fnbfXG?QlMT5[q?6xRIR[=S^%!2!9m@$YZ>X(saF#xrDGiLyzy%nw3sixq<p,hm(;cN^
r#fCe9D>^?<VF`Ag4Q>Xk8u>*5;<mk(y[@)LF@kF>,ch=oH)!pee+^3PS!<=+ABLD*j3ZHHbJ@0=mNJ0Lixla9F<)c,Z27sgk5&1
38_ZeE7Q/:VWr@JR&EoXCP#(!DucwVLaaj8RyBFfgp>dvvRa;(qfn3qF]vY2ELZTwgFZPC<VjTTlCky531?<D4oU:1ghYIEbZ#]w
oyvHie%o)!P=[!WAHk:DZ14IRfR(s-^Cq'5r.V'bY(S!-JbiAc?VYKbKlbuVW0KEjsDfsd;8l]IqKZfo?It7)Q@4s?%5_#,_'s])
L37P&'!@5tK&^;p2j+x=@u`'[x_7W*mE&A%Y6geFxS9=!Rc%iUAow16ZWYdB+^QuHh5VzNglE2Bqzx[='Ag5Ad38,=1f35,0IebX
9<NmMAkPt[O4qXKOA.axOl2&Uto)yQ0UpZ3g(N<`]t@59z)e,L%Xhs>`VjIW=&SFTkb_<TaJ4f&.JpMcvmA#jrC$#p9u)GdM7rhc
4a<fcbGz/ID/#E7x!DMqxL8xK*n.^'ipAG/*LmhJ;Js1?^VpvyKsg@Vo_"

end KeywordCatalog.Text
